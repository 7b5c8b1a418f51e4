import CardEffects.Proofs.StatShifts

/-!
# Making a change and taking it back

A stat change is made for all the stats that it writes or for none, and so it is taken back. Each of
the two undoes the other, at both ends of the range as well, because neither meets a level that the
other one has not been through.
-/

namespace CardEffects.Proofs

/-- Whether no stat reads differently on the second board. -/
def SameStats (b b' : Board) : Prop :=
  ∀ entity key, b'.stat? entity key = b.stat? entity key

lemma Shifted.stat?_eq {b b' : Board} {added : EntityId → String → Int} (h : Shifted b b' added)
    {entity : EntityId} {key : String} (hnone : added entity key = 0) :
    b'.stat? entity key = b.stat? entity key := by
  apply stat?_eq_of_level
  · ext entity
    rw [contains_eq_of_outline h.outline_eq]
  · rw [h.level_eq, hnone, add_zero]

lemma Shifted.sameStats {b b' : Board} (h : Shifted b b' fun _ _ => 0) : SameStats b b' :=
  fun _ _ => h.stat?_eq rfl

/-- Where an operation succeeds, the other one takes it back. Where it fails, nothing is left of
it. -/
structure Reverses (forth back : BoardM Unit) (b : Board) : Prop where
  restores : ∀ b₁, forth b = .ok () b₁ → ∃ b₂, back b₁ = .ok () b₂ ∧ SameStats b b₂
  untouched : ∀ fault b₁, forth b = .error fault b₁ → SameStats b b₁

/-! ### Operations that shift by opposite integers -/

lemma Shifts.reverses {forth back : BoardM Unit} {target : EntityId} {d d' : String → Int}
    (hforth : Shifts forth target d) (hback : Shifts back target d') (hneg : ∀ key, d' key = -d key)
    (b : Board) : Reverses forth back b where
  restores b₁ hrun := by
    obtain ⟨b₂, hundo, hshift⟩ := hforth.undone hback hneg hrun
    exact ⟨b₂, hundo, hshift.sameStats⟩
  untouched fault b₁ hrun := (hforth.error hrun).2.1.sameStats

/-! ### When a change succeeds -/

/-- The stats that a change writes. -/
def written : StatChange → List String
  | .attack _ => [Stat.attack]
  | .health _ => [Stat.maxHealth, Stat.health]
  | .taunt => [Stat.taunt]

lemma delta_of_not_written {change : StatChange} {key : String} (h : key ∉ written change) :
    delta change key = 0 := by
  cases change <;> simp_all [written, delta]

lemma Shifts.ok_iff {operation : BoardM Unit} {target : EntityId} {d : String → Int}
    (h : Shifts operation target d) {keys : List String} (hkeys : ∀ key, key ∉ keys → d key = 0)
    (b : Board) :
    (∃ b', operation b = .ok () b') ↔
      b.contains target = true ∧ ∀ key ∈ keys, InRange (level b target key + d key) := by
  constructor
  · rintro ⟨b', hrun⟩
    obtain ⟨⟨hplay, hrange⟩, -⟩ := h.ok hrun
    exact ⟨hplay, fun key _ => hrange key⟩
  · rintro ⟨hplay, hrange⟩
    have hbears : Bears b target d := by
      refine ⟨hplay, fun key => ?_⟩
      by_cases hkey : key ∈ keys
      · exact hrange key hkey
      · rw [hkeys key hkey, add_zero]
        exact level_inRange b target key
    obtain ⟨b', hrun, -⟩ := h.ok_of_bears b hbears
    exact ⟨b', hrun⟩

/-! ### Putting the first of two stats back -/

/-- Where the second of two writes fails, the first one is put back without fail, and the fault of
the whole is that of the second. -/
def PutsBack (whole : BoardM Unit) (first second back : BoardM Amount) (b : Board) : Prop :=
  ∀ value b₁ fault b₂, first b = .ok value b₁ → second b₁ = .error fault b₂ →
    ∃ value' b₃, back b₂ = .ok value' b₃ ∧ whole b = .error fault b₃

lemma shiftBoth_putsBack (target : EntityId) (key key' : String) (n : Int) (b : Board) :
    PutsBack (shiftBoth target key key' n) (shiftStat target key n) (shiftStat target key' n)
      (shiftStat target key (-n)) b := by
  intro value b₁ fault b₂ hfirst hsecond
  have hfits : b.contains target = true ∧ InRange (level b target key + n) := by
    by_contra hno
    obtain ⟨fault', herror, -⟩ := shiftStat_error hno
    rw [herror] at hfirst
    cases hfirst
  obtain ⟨value', b₁', hok, hshift⟩ := shiftStat_ok hfits.1 hfits.2
  rw [hok] at hfirst
  cases hfirst
  have hplay : b₁.contains target = true := by
    rw [contains_eq_of_outline hshift.outline_eq, hfits.1]
  have hno : ¬(b₁.contains target = true ∧ InRange (level b₁ target key' + n)) := by
    rintro ⟨-, hrange⟩
    obtain ⟨value'', b₃, hok', -⟩ := shiftStat_ok hplay hrange
    rw [hok'] at hsecond
    cases hsecond
  obtain ⟨fault', herror, -⟩ := shiftStat_error hno
  rw [herror] at hsecond
  cases hsecond
  have hback : InRange (level b₁ target key + -n) := by
    rw [hshift.level_eq]
    simpa [onTarget, onStat] using level_inRange b target key
  obtain ⟨value'', b₃, hrun, -⟩ := shiftStat_ok hplay hback
  exact ⟨value'', b₃, hrun, by simp [shiftBoth, hok, attempt_run_error herror, hrun]⟩

/-! ### The law of a change -/

/-- What holds of making a change and of taking it back, on any board and for any target. -/
structure Invertible (change : StatChange) (target : EntityId) (b : Board) : Prop where
  make_undo : Reverses (change.make target) (change.undo target) b
  undo_make : Reverses (change.undo target) (change.make target) b
  make_ok_iff : (∃ b', change.make target b = .ok () b') ↔
    b.contains target = true ∧
      ∀ key ∈ written change, InRange (level b target key + delta change key)
  undo_ok_iff : (∃ b', change.undo target b = .ok () b') ↔
    b.contains target = true ∧
      ∀ key ∈ written change, InRange (level b target key - delta change key)
  /-- A change that is made adds what it says to its target, and nothing to anybody else. -/
  level_make : ∀ b', change.make target b = .ok () b' → ∀ entity key,
    level b' entity key = level b entity key + onTarget target (delta change) entity key
  make_health : ∀ amount, change = .health amount →
    PutsBack (change.make target) (Board.raiseStat target Stat.maxHealth amount)
      (Board.raiseStat target Stat.health amount) (Board.lowerStat target Stat.maxHealth amount) b
  undo_health : ∀ amount, change = .health amount →
    PutsBack (change.undo target) (Board.lowerStat target Stat.maxHealth amount)
      (Board.lowerStat target Stat.health amount) (Board.raiseStat target Stat.maxHealth amount) b

/-- Making a change and taking it back undo each other, for every amount and every target, and a
failure of either changes no stat. -/
theorem change_invertible (change : StatChange) (target : EntityId) (b : Board) :
    Invertible change target b where
  make_undo := (make_shifts change target).reverses (undo_shifts change target) (fun _ => rfl) b
  undo_make := by
    apply (undo_shifts change target).reverses (make_shifts change target)
    intro key
    rw [neg_neg]
  make_ok_iff := (make_shifts change target).ok_iff (fun _ => delta_of_not_written) b
  undo_ok_iff := by
    simp only [sub_eq_add_neg]
    apply (undo_shifts change target).ok_iff
    intro key hkey
    rw [delta_of_not_written hkey, neg_zero]
  level_make b' hrun := ((make_shifts change target).ok hrun).2.level_eq
  make_health := by
    rintro amount rfl
    exact shiftBoth_putsBack target Stat.maxHealth Stat.health amount.val b
  undo_health := by
    rintro amount rfl
    have hback := shiftBoth_putsBack target Stat.maxHealth Stat.health (-amount.val) b
    rw [neg_neg] at hback
    rw [undo_health_eq]
    exact hback

end CardEffects.Proofs
