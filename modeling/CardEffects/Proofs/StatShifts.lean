import CardEffects.Board.Auras
import CardEffects.Proofs.StatLevels
import Mathlib.Data.List.Nodup
import Mathlib.Tactic.Linarith
import Mathlib.Tactic.Ring

/-!
# Stat shifts

A stat change adds fixed integers to the levels of its target, or fails and changes no level.
The module carries this from one stat to a change, and from a change to the lists of targets
that an aura works through, also through the taking back of a change that failed half way.
-/

namespace CardEffects.Proofs

/-- What a stat change adds to each stat of its target. -/
def delta : StatChange → String → Int
  | .attack amount, key => if key = Stat.attack then amount.val else 0
  | .health amount, key => if key = Stat.maxHealth ∨ key = Stat.health then amount.val else 0
  | .taunt, key => if key = Stat.taunt then 1 else 0

/-- The levels that add `d` to the stats of one target. -/
def onTarget (target : EntityId) (d : String → Int) (entity : EntityId) (key : String) : Int :=
  if target = entity then d key else 0

/-- The levels that add `d` to the stats of each target of a list, once for each mention. -/
def onTargets (targets : List EntityId) (d : String → Int) (entity : EntityId) (key : String) :
    Int :=
  (targets.count entity : Int) * d key

/-- One board comes from another by adding to the levels of its stats. -/
structure Shifted (b b' : Board) (added : EntityId → String → Int) : Prop where
  bare_eq : bare b' = bare b
  level_eq : ∀ entity key, level b' entity key = level b entity key + added entity key

lemma Shifted.outline_eq {b b' : Board} {added : EntityId → String → Int}
    (h : Shifted b b' added) : outline b' = outline b :=
  outline_eq_of_bare h.bare_eq

lemma shifted_refl (b : Board) : Shifted b b fun _ _ => 0 :=
  ⟨rfl, fun _ _ => (add_zero _).symm⟩

lemma Shifted.trans {b b' b'' : Board} {f g : EntityId → String → Int} (h : Shifted b b' f)
    (h' : Shifted b' b'' g) : Shifted b b'' fun entity key => f entity key + g entity key := by
  refine ⟨h'.bare_eq.trans h.bare_eq, fun entity key => ?_⟩
  rw [h'.level_eq, h.level_eq]
  ring

lemma Shifted.congr {b b' : Board} {f g : EntityId → String → Int} (h : Shifted b b' f)
    (hfg : ∀ entity key, f entity key = g entity key) : Shifted b b' g :=
  ⟨h.bare_eq, fun entity key => by rw [h.level_eq, hfg]⟩

/-- Whether a target is in play and all its stats stay amounts when `d` is added to them. -/
def Bears (b : Board) (target : EntityId) (d : String → Int) : Prop :=
  b.contains target = true ∧ ∀ key, InRange (level b target key + d key)

/-- Why a change of a target fails: it is not in play, or one of its stats would be no amount. -/
def Blames (b : Board) (target : EntityId) (fault : Fault) : Prop :=
  if b.contains target then ∃ key, fault = .statOverflow target key
  else fault = .unknownEntity target

/-- The operation adds `d` to the stats of the target if the target can bear it. Otherwise it
fails, and every level is as before. -/
structure Shifts (operation : BoardM Unit) (target : EntityId) (d : String → Int) : Prop where
  ok_of_bears : ∀ b, Bears b target d →
    ∃ b', operation b = .ok () b' ∧ Shifted b b' (onTarget target d)
  error_of_not : ∀ b, ¬Bears b target d →
    ∃ fault b', operation b = .error fault b' ∧ Shifted b b' (fun _ _ => 0) ∧
      Blames b target fault

lemma Shifts.ok {operation : BoardM Unit} {target : EntityId} {d : String → Int}
    (hop : Shifts operation target d) {b b' : Board} (h : operation b = .ok () b') :
    Bears b target d ∧ Shifted b b' (onTarget target d) := by
  by_cases hbears : Bears b target d
  · obtain ⟨b₁, hrun, hshift⟩ := hop.ok_of_bears b hbears
    rw [hrun] at h
    cases h
    exact ⟨hbears, hshift⟩
  · obtain ⟨fault, b₁, hrun, -⟩ := hop.error_of_not b hbears
    rw [hrun] at h
    cases h

lemma Shifts.error {operation : BoardM Unit} {target : EntityId} {d : String → Int}
    (hop : Shifts operation target d) {b b' : Board} {fault : Fault}
    (h : operation b = .error fault b') :
    ¬Bears b target d ∧ Shifted b b' (fun _ _ => 0) ∧ Blames b target fault := by
  by_cases hbears : Bears b target d
  · obtain ⟨b₁, hrun, -⟩ := hop.ok_of_bears b hbears
    rw [hrun] at h
    cases h
  · obtain ⟨fault', b₁, hrun, hshift⟩ := hop.error_of_not b hbears
    rw [hrun] at h
    cases h
    exact ⟨hbears, hshift⟩

/-- What shifts by the opposite integers takes a shift back: each level goes back to where it was,
and there it was an amount. -/
lemma Shifts.undone {forth back : BoardM Unit} {target : EntityId} {d d' : String → Int}
    (hforth : Shifts forth target d) (hback : Shifts back target d') (hneg : ∀ key, d' key = -d key)
    {b b₁ : Board} (h : forth b = .ok () b₁) :
    ∃ b₂, back b₁ = .ok () b₂ ∧ Shifted b b₂ fun _ _ => 0 := by
  obtain ⟨hbears, hshift⟩ := hforth.ok h
  have hagain : Bears b₁ target d' := by
    refine ⟨by rw [contains_eq_of_outline hshift.outline_eq, hbears.1], fun key => ?_⟩
    rw [hshift.level_eq, hneg]
    simpa [onTarget] using level_inRange b target key
  obtain ⟨b₂, hrun, hshift'⟩ := hback.ok_of_bears b₁ hagain
  refine ⟨b₂, hrun, (hshift.trans hshift').congr fun entity key => ?_⟩
  by_cases he : target = entity <;> simp [onTarget, he, hneg]

/-! ### One stat -/

def shiftStat (entity : EntityId) (key : String) (n : Int) : BoardM Amount :=
  Board.updateStat entity key fun value => Amount.ofInt? (value.val + n)

lemma updateStat_run (entity : EntityId) (key : String) (f : Amount → Option Amount) (b : Board) :
    Board.updateStat entity key f b =
      match b.character? entity with
      | none => .error (.unknownEntity entity) b
      | some c =>
        match f (c.stat key) with
        | none => .error (.statOverflow entity key) b
        | some value => .ok value (b.modifyCharacter entity (·.withStat key value)) := by
  unfold Board.updateStat Board.character
  cases h : b.character? entity with
  | none => simp [h]
  | some c => cases hf : f (c.stat key) <;> simp [h, hf]

def onStat (key : String) (n : Int) (key' : String) : Int :=
  if key = key' then n else 0

lemma shiftStat_ok {b : Board} {entity : EntityId} {key : String} {n : Int}
    (hplay : b.contains entity = true) (hrange : InRange (level b entity key + n)) :
    ∃ value b', shiftStat entity key n b = .ok value b' ∧
      Shifted b b' (onTarget entity (onStat key n)) := by
  obtain ⟨c, hc⟩ := Option.isSome_iff_exists.mp ((character?_isSome b entity).trans hplay)
  rw [level_of_character? hc] at hrange
  obtain ⟨value, hvalue⟩ := Option.isSome_iff_exists.mp (Amount.ofInt?_isSome.mpr hrange)
  refine ⟨value, b.modifyCharacter entity (·.withStat key value), ?_, ?_, ?_⟩
  · simp [shiftStat, updateStat_run, hc, hvalue]
  · exact bare_modifyCharacter _ _ _ fun _ => rfl
  · intro entity' key'
    rw [level_withStat _ _ _ _ hc, Amount.val_of_ofInt? hvalue]
    by_cases he : entity = entity'
    · subst he
      by_cases hk : key = key'
      · subst hk
        simp [onTarget, onStat, level_of_character? hc]
      · simp [onTarget, onStat, hk]
    · simp [onTarget, he]

lemma shiftStat_error {b : Board} {entity : EntityId} {key : String} {n : Int}
    (h : ¬(b.contains entity = true ∧ InRange (level b entity key + n))) :
    ∃ fault, shiftStat entity key n b = .error fault b ∧ Blames b entity fault := by
  unfold shiftStat
  rw [updateStat_run]
  cases hc : b.character? entity with
  | none =>
    have hout : b.contains entity = false := by
      rw [← character?_isSome, hc]
      rfl
    exact ⟨_, rfl, by simp [Blames, hout]⟩
  | some c =>
    have hplay : b.contains entity = true := by
      rw [← character?_isSome, hc]
      rfl
    rw [level_of_character? hc] at h
    cases hf : Amount.ofInt? ((c.stat key).val + n) with
    | none => exact ⟨.statOverflow entity key, by simp only [hf], by simp [Blames, hplay]⟩
    | some value =>
      exact absurd ⟨hplay, Amount.ofInt?_isSome.mp (by rw [hf]; rfl)⟩ h

lemma shifts_one (target : EntityId) (key : String) (n : Int) :
    Shifts (discard (shiftStat target key n)) target (onStat key n) where
  ok_of_bears := by
    intro b hb
    obtain ⟨value, b', hrun, hshift⟩ := shiftStat_ok hb.1 (by simpa [onStat] using hb.2 key)
    exact ⟨b', by simp [hrun], hshift⟩
  error_of_not := by
    intro b hb
    have hno : ¬(b.contains target = true ∧ InRange (level b target key + n)) := by
      rintro ⟨hplay, hrange⟩
      refine hb ⟨hplay, fun key' => ?_⟩
      by_cases hk : key = key'
      · subst hk
        simpa [onStat] using hrange
      · simpa [onStat, hk] using level_inRange b target key'
    obtain ⟨fault, hrun, hfault⟩ := shiftStat_error hno
    exact ⟨fault, b, by simp [hrun], shifted_refl b, hfault⟩

/-! ### Two stats -/

/-- Add an integer to two stats. If the second does not fit, the first is put back. -/
def shiftBoth (target : EntityId) (key key' : String) (n : Int) : BoardM Unit := do
  let _ ← shiftStat target key n
  match ← attempt (shiftStat target key' n) with
  | .ok _ => return
  | .error fault =>
    let _ ← shiftStat target key (-n)
    throw fault

lemma shiftBoth_error {b : Board} {target : EntityId} {key key' : String} (hne : key ≠ key')
    {n : Int} (hplay : b.contains target = true) (hfirst : InRange (level b target key + n))
    (hsecond : ¬InRange (level b target key' + n)) :
    ∃ fault b', shiftBoth target key key' n b = .error fault b' ∧ Shifted b b' (fun _ _ => 0) ∧
      Blames b target fault := by
  obtain ⟨value, b₁, hrun₁, hshift₁⟩ := shiftStat_ok hplay hfirst
  have hplay₁ : b₁.contains target = true := by
    rw [contains_eq_of_outline hshift₁.outline_eq, hplay]
  have hlevel : level b₁ target key = level b target key + n := by
    rw [hshift₁.level_eq]
    simp [onTarget, onStat]
  have hlevel' : level b₁ target key' = level b target key' := by
    rw [hshift₁.level_eq]
    simp [onTarget, onStat, hne]
  have hno : ¬(b₁.contains target = true ∧ InRange (level b₁ target key' + n)) := by
    rw [hlevel']
    exact fun hboth => hsecond hboth.2
  obtain ⟨fault, hrun₂, hfault⟩ := shiftStat_error hno
  -- Putting the first stat back cannot fail: its old level was an amount.
  obtain ⟨value', b₂, hback, hshift₂⟩ := shiftStat_ok (n := -n) hplay₁ (by
    rw [hlevel]
    simpa using level_inRange b target key)
  have hblames : Blames b target fault := by
    simpa [Blames, hplay₁, hplay] using hfault
  refine ⟨fault, b₂, by simp [shiftBoth, hrun₁, attempt_run_error hrun₂, hback], ?_, hblames⟩
  apply (hshift₁.trans hshift₂).congr
  intro entity k
  by_cases he : target = entity
  · by_cases hk : key = k <;> simp [onTarget, onStat, he, hk]
  · simp [onTarget, he]

lemma shifts_both (target : EntityId) {key key' : String} (hne : key ≠ key') (n : Int) :
    Shifts (shiftBoth target key key' n) target
      (fun k => if k = key ∨ k = key' then n else 0) where
  ok_of_bears := by
    intro b hb
    obtain ⟨value, b₁, hfirst, hshift₁⟩ := shiftStat_ok (n := n) hb.1 (by simpa using hb.2 key)
    have hplay₁ : b₁.contains target = true := by
      rw [contains_eq_of_outline hshift₁.outline_eq, hb.1]
    have hlevel : level b₁ target key' = level b target key' := by
      rw [hshift₁.level_eq]
      simp [onTarget, onStat, hne]
    obtain ⟨value', b₂, hsecond, hshift₂⟩ :=
      shiftStat_ok (n := n) hplay₁ (show InRange (level b₁ target key' + n) by
        simpa [hlevel] using hb.2 key')
    refine ⟨b₂, by simp [shiftBoth, hfirst, attempt_run_ok hsecond], ?_⟩
    apply (hshift₁.trans hshift₂).congr
    intro entity k
    by_cases he : target = entity
    · by_cases hk : key = k
      · subst hk
        simp [onTarget, onStat, he, hne.symm]
      · by_cases hk' : key' = k <;> simp [onTarget, onStat, he, hk, hk', eq_comm (a := k)]
    · simp [onTarget, he]
  error_of_not := by
    intro b hb
    by_cases hfits : b.contains target = true ∧ InRange (level b target key + n)
    · refine shiftBoth_error hne hfits.1 hfits.2 fun hrange => hb ⟨hfits.1, fun k => ?_⟩
      by_cases hk : k = key
      · simpa [hk] using hfits.2
      · by_cases hk' : k = key'
        · simpa [hk'] using hrange
        · simpa [hk, hk'] using level_inRange b target k
    · obtain ⟨fault, hfirst, hfault⟩ := shiftStat_error hfits
      exact ⟨fault, b, by simp [shiftBoth, hfirst], shifted_refl b, hfault⟩

/-! ### A change of one target -/

lemma maxHealth_ne_health : Stat.maxHealth ≠ Stat.health := by decide

lemma make_health_eq (amount : Amount) (target : EntityId) :
    StatChange.make (.health amount) target =
      shiftBoth target Stat.maxHealth Stat.health amount.val := rfl

lemma undo_health_eq (amount : Amount) (target : EntityId) :
    StatChange.undo (.health amount) target =
      shiftBoth target Stat.maxHealth Stat.health (-amount.val) := by
  unfold shiftBoth
  rw [neg_neg]
  rfl

theorem make_shifts (change : StatChange) (target : EntityId) :
    Shifts (change.make target) target (delta change) := by
  cases change with
  | attack amount =>
    have h := shifts_one target Stat.attack amount.val
    have hd : onStat Stat.attack amount.val = delta (.attack amount) := by
      funext key
      simp [onStat, delta, eq_comm]
    rwa [hd] at h
  | health amount =>
    rw [make_health_eq]
    exact shifts_both target maxHealth_ne_health amount.val
  | taunt =>
    have h := shifts_one target Stat.taunt 1
    have hd : onStat Stat.taunt 1 = delta .taunt := by
      funext key
      simp [onStat, delta, eq_comm]
    rwa [hd] at h

theorem undo_shifts (change : StatChange) (target : EntityId) :
    Shifts (change.undo target) target (fun key => -delta change key) := by
  cases change with
  | attack amount =>
    have h := shifts_one target Stat.attack (-amount.val)
    have hd : onStat Stat.attack (-amount.val) = fun key => -delta (.attack amount) key := by
      funext key
      by_cases hk : key = Stat.attack <;> simp [onStat, delta, hk, eq_comm (a := Stat.attack)]
    rwa [hd] at h
  | health amount =>
    have h := shifts_both target maxHealth_ne_health (-amount.val)
    have hd : (fun k => if k = Stat.maxHealth ∨ k = Stat.health then -amount.val else 0) =
        fun key => -delta (.health amount) key := by
      funext key
      by_cases hk : key = Stat.maxHealth ∨ key = Stat.health <;> simp [delta, hk]
    rwa [hd, ← undo_health_eq] at h
  | taunt =>
    have h := shifts_one target Stat.taunt (-1)
    have hd : onStat Stat.taunt (-1) = fun key => -delta .taunt key := by
      funext key
      by_cases hk : key = Stat.taunt <;> simp [onStat, delta, hk, eq_comm (a := Stat.taunt)]
    rwa [hd] at h

lemma Bears.congr {b b' : Board} {target : EntityId} {d : String → Int} (h : Bears b target d)
    (hbare : bare b' = bare b) (hlevel : ∀ key, level b' target key = level b target key) :
    Bears b' target d := by
  refine ⟨by rw [contains_eq_of_outline (outline_eq_of_bare hbare), h.1], fun key => ?_⟩
  rw [hlevel]
  exact h.2 key

/-! ### A change of a list of targets -/

lemma inRange_of_steps {x d : Int} {n : Nat} (hx : InRange x)
    (hn : InRange (x + ((n + 1 : Nat) : Int) * d)) : InRange (x + (n : Int) * d) := by
  have hstep : ((n + 1 : Nat) : Int) * d = n * d + d := by push_cast; ring
  rw [hstep] at hn
  unfold InRange at *
  rcases le_total 0 d with hd | hd
  · have : 0 ≤ (n : Int) * d := mul_nonneg (by omega) hd
    omega
  · have : (n : Int) * d ≤ 0 := mul_nonpos_of_nonneg_of_nonpos (by omega) hd
    omega

lemma onTargets_cons (target : EntityId) (targets : List EntityId) (d : String → Int)
    (entity : EntityId) (key : String) :
    onTargets (target :: targets) d entity key =
      onTargets targets d entity key + onTarget target d entity key := by
  unfold onTargets onTarget
  by_cases h : target = entity
  · simp [h]
    ring
  · simp [h]

lemma onTargets_of_nodup {targets : List EntityId} (h : targets.Nodup) (d : String → Int)
    (entity : EntityId) (key : String) :
    onTargets targets d entity key = if entity ∈ targets then d key else 0 := by
  unfold onTargets
  by_cases hmem : entity ∈ targets
  · simp [hmem, List.count_eq_one_of_mem h hmem]
  · simp [hmem, List.count_eq_zero_of_not_mem hmem]

/-- Taking a change back from those that have it brings every level back to where it was. It
cannot fail: each level moves back towards an amount. -/
lemma undoAll_restores (change : StatChange) {b₀ : Board} (done : List EntityId)
    (hplay : ∀ target ∈ done, b₀.contains target = true) {b : Board}
    (hshift : Shifted b₀ b (onTargets done (delta change))) :
    ∃ b', change.undoAll done b = .ok () b' ∧ Shifted b₀ b' fun _ _ => 0 := by
  induction done generalizing b with
  | nil =>
    refine ⟨b, rfl, hshift.congr fun entity key => ?_⟩
    simp [onTargets]
  | cons target done ih =>
    have hbears : Bears b target fun key => -delta change key := by
      refine ⟨?_, fun key => ?_⟩
      · rw [contains_eq_of_outline hshift.outline_eq]
        exact hplay target (by simp)
      · have hnow := level_inRange b target key
        have hlevel := hshift.level_eq target key
        rw [hlevel] at hnow
        -- The new level lies between the one before `done` and the one now.
        have hsteps :
            InRange (level b₀ target key + (done.count target : Int) * delta change key) :=
          inRange_of_steps (level_inRange b₀ target key)
            (by simpa [onTargets, List.count_cons_self] using hnow)
        have he : level b target key + -delta change key =
            level b₀ target key + (done.count target : Int) * delta change key := by
          rw [hlevel, onTargets_cons]
          simp [onTargets, onTarget]
          ring
        rwa [he]
    obtain ⟨b₁, hundo, hshift₁⟩ := (undo_shifts change target).ok_of_bears b hbears
    have hback : Shifted b₀ b₁ (onTargets done (delta change)) := by
      apply (hshift.trans hshift₁).congr
      intro entity key
      rw [onTargets_cons]
      by_cases he : target = entity <;> simp [onTarget, he]
    obtain ⟨b₂, hrest, hshift₂⟩ := ih (fun t ht => hplay t (by simp [ht])) hback
    exact ⟨b₂, by simp [StatChange.undoAll, hundo, hrest], hshift₂⟩

/-- Whether a change that is made to several targets in turn fails on a target, after all those
before it. -/
def FailsOn (change : StatChange) (targets : List EntityId) (b : Board) (target : EntityId)
    (fault : Fault) : Prop :=
  ∃ first rest b₁ b₂, targets = first ++ target :: rest ∧ first.forM change.make b = .ok () b₁ ∧
    change.make target b₁ = .error fault b₂

lemma FailsOn.here {change : StatChange} {target : EntityId} {b b' : Board} {fault : Fault}
    (h : change.make target b = .error fault b') (targets : List EntityId) :
    FailsOn change (target :: targets) b target fault :=
  ⟨[], targets, b, b', rfl, rfl, h⟩

lemma FailsOn.cons {change : StatChange} {target target' : EntityId} {targets : List EntityId}
    {b b₁ : Board} {fault : Fault} (hmake : change.make target b = .ok () b₁)
    (h : FailsOn change targets b₁ target' fault) :
    FailsOn change (target :: targets) b target' fault := by
  obtain ⟨first, rest, b₂, b₃, rfl, hfirst, hfault⟩ := h
  exact ⟨target :: first, rest, b₂, b₃, rfl, by simpa [hmake] using hfirst, hfault⟩

lemma makeAll_cons_of_bears (change : StatChange) (done targets : List EntityId)
    {target : EntityId} {b : Board} (h : Bears b target (delta change)) :
    ∃ b₁, change.make target b = .ok () b₁ ∧ Shifted b b₁ (onTarget target (delta change)) ∧
      change.makeAll done (target :: targets) b = change.makeAll (target :: done) targets b₁ := by
  obtain ⟨b₁, hmake, hshift⟩ := (make_shifts change target).ok_of_bears b h
  exact ⟨b₁, hmake, hshift, by simp [StatChange.makeAll, attempt_run_ok hmake]⟩

lemma makeAll_cons_of_not (change : StatChange) (done targets : List EntityId)
    {target : EntityId} {b : Board} (h : ¬Bears b target (delta change)) :
    ∃ fault b₁, change.make target b = .error fault b₁ ∧ Shifted b b₁ (fun _ _ => 0) ∧
      change.makeAll done (target :: targets) b =
        (do change.undoAll done; throw fault : BoardM Unit) b₁ := by
  obtain ⟨fault, b₁, hmake, hshift, -⟩ := (make_shifts change target).error_of_not b h
  exact ⟨fault, b₁, hmake, hshift, by simp [StatChange.makeAll, attempt_run_error hmake]⟩

theorem makeAll_ok (change : StatChange) (done targets : List EntityId) {b b' : Board}
    (h : change.makeAll done targets b = .ok () b') :
    Shifted b b' (onTargets targets (delta change)) := by
  induction targets generalizing done b with
  | nil =>
    cases h
    exact (shifted_refl _).congr fun entity key => by simp [onTargets]
  | cons target targets ih =>
    by_cases hbears : Bears b target (delta change)
    · obtain ⟨b₁, -, hshift, hrun⟩ := makeAll_cons_of_bears change done targets hbears
      rw [hrun] at h
      apply (hshift.trans (ih _ h)).congr
      intro entity key
      rw [onTargets_cons, add_comm]
    · obtain ⟨fault, b₁, -, -, hrun⟩ := makeAll_cons_of_not change done targets hbears
      rw [hrun] at h
      obtain ⟨_, _, -, hthrow⟩ := bind_ok h
      cases hthrow

/-- A change that fails on a list of targets leaves every level as it was before the first of
them had it, and its fault is that of the target that it failed on. `done` are those that had it
when the list was begun. -/
theorem makeAll_error (change : StatChange) (targets : List EntityId) {done : List EntityId}
    {b₀ b b' : Board} {fault : Fault} (hplay : ∀ target ∈ done, b₀.contains target = true)
    (hshift : Shifted b₀ b (onTargets done (delta change)))
    (h : change.makeAll done targets b = .error fault b') :
    Shifted b₀ b' (fun _ _ => 0) ∧ ∃ target, FailsOn change targets b target fault := by
  -- A target that takes the change joins `done`, so `b` always is `b₀` with the change on `done`.
  induction targets generalizing done b with
  | nil => cases h
  | cons target targets ih =>
    by_cases hbears : Bears b target (delta change)
    · obtain ⟨b₁, hmake, hshift₁, hrun⟩ := makeAll_cons_of_bears change done targets hbears
      rw [hrun] at h
      have hplay' : ∀ t ∈ target :: done, b₀.contains t = true := by
        intro t ht
        rcases List.mem_cons.mp ht with rfl | ht
        · rw [← contains_eq_of_outline hshift.outline_eq]
          exact hbears.1
        · exact hplay t ht
      have hhave : Shifted b₀ b₁ (onTargets (target :: done) (delta change)) :=
        (hshift.trans hshift₁).congr fun entity key => (onTargets_cons ..).symm
      obtain ⟨hback, target', hfails⟩ := ih hplay' hhave h
      exact ⟨hback, target', hfails.cons hmake⟩
    · obtain ⟨fault', b₁, hmake, hshift₁, hrun⟩ :=
        makeAll_cons_of_not change done targets hbears
      have hstill : Shifted b₀ b₁ (onTargets done (delta change)) :=
        (hshift.trans hshift₁).congr fun entity key => add_zero _
      obtain ⟨b₂, hundo, hshift₂⟩ := undoAll_restores change done hplay hstill
      rw [hrun] at h
      simp only [bind_run, hundo, throw_run, EStateM.Result.error.injEq] at h
      rw [← h.1, ← h.2]
      exact ⟨hshift₂, target, .here hmake targets⟩

/-- Taking a change back from a list of targets works through those in play, up to the first
that cannot bear it. Those before it have lost the change then, and the others still have it. -/
theorem undoOnMinions_outcome (change : StatChange) (targets : List EntityId) (b : Board) :
    (∃ b', change.undoOnMinions targets b = .ok () b' ∧
      Shifted b b' (onTargets (targets.filter b.isMinion) fun key => -delta change key)) ∨
    ∃ done target rest key b', targets.filter b.isMinion = done ++ target :: rest ∧
      change.undoOnMinions targets b = .error (.statOverflow target key) b' ∧
      Shifted b b' (onTargets done fun key => -delta change key) ∧
      ¬Bears b' target fun key => -delta change key := by
  induction targets generalizing b with
  | nil =>
    exact .inl ⟨b, rfl, (shifted_refl b).congr fun entity key => by simp [onTargets]⟩
  | cons target targets ih =>
    by_cases hminion : b.isMinion target = true
    · by_cases hbears : Bears b target fun key => -delta change key
      · obtain ⟨b₁, hundo, hshift⟩ := (undo_shifts change target).ok_of_bears b hbears
        have hsame : b₁.isMinion = b.isMinion := funext (isMinion_eq_of_outline hshift.outline_eq)
        have hrun : change.undoOnMinions (target :: targets) b =
            change.undoOnMinions targets b₁ := by
          simp [StatChange.undoOnMinions, hminion, hundo]
        rcases ih b₁ with
          ⟨b', hrest, hshift'⟩ | ⟨done, t, rest, key, b', hsplit, hrest, hshift', hno⟩
        · refine .inl ⟨b', hrun.trans hrest, (hshift.trans hshift').congr fun entity key => ?_⟩
          rw [List.filter_cons_of_pos hminion, onTargets_cons, hsame, add_comm]
        · refine .inr ⟨target :: done, t, rest, key, b', ?_, hrun.trans hrest,
            (hshift.trans hshift').congr fun entity key => ?_, hno⟩
          · rw [List.filter_cons_of_pos hminion, ← hsame, hsplit, List.cons_append]
          · rw [onTargets_cons, add_comm]
      · obtain ⟨fault, b₁, hundo, hshift, hfault⟩ :=
          (undo_shifts change target).error_of_not b hbears
        have hplay : b.contains target = true := by simp [Board.contains, hminion]
        obtain ⟨key, rfl⟩ : ∃ key, fault = .statOverflow target key := by
          simpa [Blames, hplay] using hfault
        refine .inr ⟨[], target, targets.filter b.isMinion, key, b₁, ?_, ?_, ?_, ?_⟩
        · rw [List.filter_cons_of_pos hminion, List.nil_append]
        · simp [StatChange.undoOnMinions, hminion, hundo]
        · exact hshift.congr fun entity key => by simp [onTargets]
        · intro hbears₁
          exact hbears (hbears₁.congr hshift.bare_eq.symm fun key => by
            rw [hshift.level_eq, add_zero])
    · have hrun : change.undoOnMinions (target :: targets) b =
          change.undoOnMinions targets b := by
        simp [StatChange.undoOnMinions, hminion]
      rw [hrun, List.filter_cons_of_neg hminion]
      exact ih b

end CardEffects.Proofs
