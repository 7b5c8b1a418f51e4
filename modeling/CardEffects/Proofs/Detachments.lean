import CardEffects.Proofs.Keepers

/-!
# Detaching effects

Detaching takes all effects from their owner at once and releases their subscriptions one after
another. The first subscription that is not in force any more ends this, and those after it stay.
-/

namespace CardEffects.Proofs

/-- One board comes from another by the release of the subscriptions with some numbers. -/
structure Freed (b b' : Board) (gone : List ListenerId) : Prop where
  lists_eq : ∀ surface event, listenersAt b' surface event =
    (listenersAt b surface event).filter fun entry => entry.1 ∉ gone
  next_eq : b'.nextListener = b.nextListener

namespace Freed

variable {b b' b'' : Board} {gone gone' : List ListenerId}

lemma mem_iff (h : Freed b b' gone) {surface : EntityId} {event : String} {id : ListenerId}
    {listener : Listener} : (id, listener) ∈ listenersAt b' surface event ↔
      (id, listener) ∈ listenersAt b surface event ∧ id ∉ gone := by
  rw [h.lists_eq, List.mem_filter, decide_eq_true_iff]

lemma fewer (h : Freed b b' gone) : Fewer b b' where
  sublist surface event := by
    rw [h.lists_eq]
    exact List.filter_sublist
  next_eq := h.next_eq

lemma of_listening (h : listening b' = listening b) : Freed b b' [] where
  lists_eq surface event := by
    have hlists : listenersAt b' = listenersAt b := congrArg Prod.fst h
    simp [hlists]
  next_eq := congrArg Prod.snd h

lemma trans (h : Freed b b' gone) (h' : Freed b' b'' gone') : Freed b b'' (gone ++ gone') where
  lists_eq surface event := by
    rw [h'.lists_eq, h.lists_eq, List.filter_filter]
    refine List.filter_congr fun entry _ => ?_
    simp [Bool.and_comm]
  next_eq := h'.next_eq.trans h.next_eq

end Freed

lemma eraseP_eq_filter {α : Type} {list : List (ListenerId × α)} (h : (list.map (·.1)).Nodup)
    (id : ListenerId) : list.eraseP (·.1 = id) = list.filter (·.1 ≠ id) := by
  induction list with
  | nil => rfl
  | cons entry list ih =>
    obtain ⟨hnot, hnodup⟩ := List.nodup_cons.mp h
    by_cases hid : entry.1 = id
    · have hrest : list.filter (·.1 ≠ id) = list := by
        refine List.filter_eq_self.mpr fun other hother => ?_
        have hne : other.1 ≠ id := by
          intro hsame
          have hmem : other.1 ∈ list.map (·.1) := List.mem_map_of_mem hother
          rw [hsame, ← hid] at hmem
          exact hnot hmem
        simpa using hne
      rw [List.eraseP_cons_of_pos (by simpa using hid), List.filter_cons_of_neg (by simpa using hid),
        hrest]
    · rw [List.eraseP_cons_of_neg (by simpa using hid), List.filter_cons_of_pos (by simpa using hid),
        ih hnodup]

lemma Released.freed {b b' : Board} {surface : EntityId} {event : String} {id : ListenerId}
    (h : Released b b' surface event id) (hfit : ListenersFit b)
    (hbound : b.isBound surface event id = true) : Freed b b' [id] where
  lists_eq surface' event' := by
    rw [h.listeners_eq]
    split
    · next hplace =>
      rw [eraseP_eq_filter (hfit.nodup surface' event')]
      simp
    · next hplace =>
      obtain ⟨listener, hmem⟩ := (isBound_iff _ _ _ _).mp hbound
      refine (List.filter_eq_self.mpr fun entry hentry => ?_).symm
      have hne : entry.1 ≠ id := by
        rintro rfl
        exact hplace (hfit.place_eq hmem hentry)
      simpa using hne
  next_eq := h.nextListener_eq

lemma unsubscribe_cases {b : Board} (h : ListenersFit b) (surface : EntityId) (event : String)
    (id : ListenerId) :
    (b.isBound surface event id = true ∧
      ∃ b', Board.unsubscribe surface event id b = .ok () b' ∧ Freed b b' [id]) ∨
    (b.isBound surface event id = false ∧
      ∃ fault, Board.unsubscribe surface event id b = .error fault b) := by
  rcases unsubscribe_outcome surface event id b with
    ⟨hbound, b', hrun, hreleased⟩ | ⟨hunbound, fault, -, hrun⟩
  · exact .inl ⟨hbound, b', hrun, hreleased.freed h hbound⟩
  · exact .inr ⟨hunbound, fault, hrun⟩

/-! ### Effects that are heard -/

/-- The number of the subscription that an effect has made. -/
def number? (effect : Effect) : Option ListenerId :=
  effect.active.map (·.2.listener)

/-- Whether the subscription of an effect is in force. -/
def Heard (b : Board) (effect : Effect) : Prop :=
  ∃ owner binding, effect.active = some (owner, binding) ∧
    b.isBound binding.surface binding.event binding.listener = true

/-- Whether a number is that of a subscription in force. -/
def InForce (b : Board) (id : ListenerId) : Prop :=
  ∃ surface event listener, (id, listener) ∈ listenersAt b surface event

lemma InForce.of_fewer {b b' : Board} {id : ListenerId} (h : InForce b' id) (hfewer : Fewer b b') :
    InForce b id := by
  obtain ⟨surface, event, listener, hmem⟩ := h
  exact ⟨surface, event, listener, (hfewer.sublist surface event).mem hmem⟩

lemma Freed.not_inForce {b b' : Board} {gone : List ListenerId} (h : Freed b b' gone)
    {id : ListenerId} (hmem : id ∈ gone) : ¬InForce b' id := by
  rintro ⟨surface, event, listener, hlisten⟩
  exact (h.mem_iff.mp hlisten).2 hmem

lemma Heard.inForce {b : Board} {effect : Effect} (h : Heard b effect) :
    ∃ id, number? effect = some id ∧ InForce b id := by
  obtain ⟨owner, binding, hactive, hbound⟩ := h
  obtain ⟨listener, hmem⟩ := (isBound_iff _ _ _ _).mp hbound
  exact ⟨binding.listener, by simp [number?, hactive], _, _, listener, hmem⟩

/-- Whether an effect holds a subscription to its own event. -/
def Ready (effect : Effect) : Prop :=
  ∃ owner binding, effect.active = some (owner, binding) ∧ binding.event = effect.event.name

lemma Freed.heard_iff {b b' : Board} {gone : List ListenerId} (h : Freed b b' gone)
    {effect : Effect} (hgone : ∀ id, number? effect = some id → id ∉ gone) :
    Heard b' effect ↔ Heard b effect := by
  have hbound : ∀ owner binding, effect.active = some (owner, binding) →
      (b'.isBound binding.surface binding.event binding.listener = true ↔
        b.isBound binding.surface binding.event binding.listener = true) := by
    intro owner binding hactive
    have hnot := hgone binding.listener (by simp [number?, hactive])
    simp only [isBound_iff, h.mem_iff, hnot, not_false_eq_true, and_true]
  constructor <;> rintro ⟨owner, binding, hactive, hheard⟩
  · exact ⟨owner, binding, hactive, (hbound owner binding hactive).mp hheard⟩
  · exact ⟨owner, binding, hactive, (hbound owner binding hactive).mpr hheard⟩

lemma switchOffEffect_cases {b : Board} (h : ListenersFit b) {effect : Effect}
    (hready : Ready effect) :
    (Heard b effect ∧ ∃ id b', number? effect = some id ∧ effect.switchOff b = .ok () b' ∧
      Freed b b' [id]) ∨
    (¬Heard b effect ∧ ∃ fault, effect.switchOff b = .error fault b) := by
  obtain ⟨owner, binding, hactive, hevent⟩ := hready
  have hrun : effect.switchOff b =
      Board.unsubscribe binding.surface binding.event binding.listener b := by
    simp [Effect.switchOff, Event.unsubscribe, hactive, hevent]
  have hheard : Heard b effect ↔
      b.isBound binding.surface binding.event binding.listener = true := by
    simp [Heard, hactive]
  rw [hrun, hheard]
  rcases unsubscribe_cases h binding.surface binding.event binding.listener with
    ⟨hbound, b', hok, hfreed⟩ | ⟨hunbound, herror⟩
  · exact .inl ⟨hbound, _, b', by simp [number?, hactive], hok, hfreed⟩
  · exact .inr ⟨by simp [hunbound], herror⟩

/-- Whether a list of effects has `cut` behind the first effect that is not heard. -/
def Splits (b : Board) (effects before : List Effect) (silent : Effect) (cut : List Effect) : Prop :=
  effects = before ++ silent :: cut ∧ (∀ effect ∈ before, Heard b effect) ∧ ¬Heard b silent

lemma switchOffEffects_cases {b : Board} (h : ListenersFit b) {effects : List Effect}
    (hready : ∀ effect ∈ effects, Ready effect) (hapart : (effects.map number?).Nodup) :
    ((∀ effect ∈ effects, Heard b effect) ∧ ∃ b', Board.switchOffEffects effects b = .ok () b' ∧
      Freed b b' (effects.filterMap number?)) ∨
    ∃ before silent cut, Splits b effects before silent cut ∧ ∃ fault b',
      Board.switchOffEffects effects b = .error fault b' ∧
        Freed b b' (before.filterMap number?) := by
  induction effects generalizing b with
  | nil => exact .inl ⟨by simp, b, rfl, .of_listening rfl⟩
  | cons effect effects ih =>
    obtain ⟨hnot, hnodup⟩ := List.nodup_cons.mp hapart
    rcases switchOffEffect_cases h (hready effect (by simp)) with
      ⟨hheard, id, b₁, hid, hrun, hfreed⟩ | ⟨hsilent, fault, hrun⟩
    · have hwell : WellFormed (outline b₁) := by
        have hstanding := releases_effect within_standing_unsubscribe effect b
        rw [leftBy_of_ok hrun] at hstanding
        rw [outline_eq_of_standing hstanding]
        exact h.wellFormed
      have hsame : ∀ other ∈ effects, Heard b₁ other ↔ Heard b other := by
        intro other hother
        refine hfreed.heard_iff fun id' hid' hmem => hnot ?_
        obtain rfl := List.mem_singleton.mp hmem
        rw [hid, ← hid']
        exact List.mem_map_of_mem hother
      have hnumbers : ∀ list : List Effect,
          (effect :: list).filterMap number? = [id] ++ list.filterMap number? := by
        intro list
        simp [hid]
      rcases ih (h.of_fewer hwell hfreed.fewer) (fun other ho => hready other (by simp [ho]))
        hnodup with ⟨hall, b', hrest, hfreed'⟩ |
        ⟨before, silent, cut, ⟨rfl, hbefore, hsilent⟩, fault, b', hrest, hfreed'⟩
      · refine .inl ⟨?_, b', by simp [Board.switchOffEffects, hrun, hrest], ?_⟩
        · intro other hother
          rcases List.mem_cons.mp hother with rfl | hother
          · exact hheard
          · exact (hsame other hother).mp (hall other hother)
        · rw [hnumbers]
          exact hfreed.trans hfreed'
      · refine .inr ⟨effect :: before, silent, cut, ⟨rfl, ?_, ?_⟩, fault, b',
          by simp [Board.switchOffEffects, hrun, hrest], ?_⟩
        · intro other hother
          rcases List.mem_cons.mp hother with rfl | hother
          · exact hheard
          · exact (hsame other (by simp [hother])).mp (hbefore other hother)
        · exact fun hsounds => hsilent ((hsame silent (by simp)).mpr hsounds)
        · rw [hnumbers]
          exact hfreed.trans hfreed'
    · exact .inr ⟨[], effect, effects, ⟨rfl, by simp, hsilent⟩, fault, b,
        by simp [Board.switchOffEffects, hrun], .of_listening rfl⟩

/-! ### The effects of one owner -/

lemma KeepersFit.ready {b : Board} (h : KeepersFit b) {owner : EntityId} {effect : Effect}
    (heffect : effect ∈ effectsOf b owner) : Ready effect := by
  obtain ⟨index, hget⟩ := List.mem_iff_getElem?.mp heffect
  obtain ⟨binding, hon, -⟩ := h.kept (keeping?_of_getElem? hget)
  obtain ⟨⟨holder, binding'⟩, hactive, rfl⟩ := Option.map_eq_some_iff.mp hon.binding_eq
  exact ⟨holder, binding', hactive, hon.event_eq⟩

lemma KeepersFit.numbers_nodup {b : Board} (h : KeepersFit b) (owner : EntityId) :
    ((effectsOf b owner).map number?).Nodup := by
  refine List.nodup_iff_getElem?_ne_getElem?.mpr fun i j hij hj hsame => ?_
  rw [List.length_map] at hj
  have hi : i < (effectsOf b owner).length := hij.trans hj
  rw [List.getElem?_map, List.getElem?_map, List.getElem?_eq_getElem hi,
    List.getElem?_eq_getElem hj] at hsame
  obtain ⟨holder, binding, hactive, -⟩ := h.ready (List.getElem_mem hi)
  obtain ⟨holder', binding', hactive', -⟩ := h.ready (List.getElem_mem hj)
  have hkeepers := h.apart (keeping?_of_getElem? (List.getElem?_eq_getElem hi))
    (keeping?_of_getElem? (List.getElem?_eq_getElem hj))
    (congrArg (Option.map Prod.snd) hactive) (congrArg (Option.map Prod.snd) hactive')
    (by simpa [number?, hactive, hactive'] using hsame)
  obtain ⟨-, rfl⟩ := Keeper.effect.inj hkeepers
  exact lt_irrefl _ hij

lemma KeepersFit.heard_of_inForce {b : Board} (h : KeepersFit b) {owner : EntityId}
    {effect : Effect} (hmem : effect ∈ effectsOf b owner) {id : ListenerId}
    (hid : number? effect = some id) (hforce : InForce b id) : Heard b effect := by
  obtain ⟨surface, event, listener, hlisten⟩ := hforce
  obtain ⟨index, hget⟩ := List.mem_iff_getElem?.mp hmem
  obtain ⟨⟨holder, binding⟩, hactive, rfl⟩ := Option.map_eq_some_iff.mp hid
  obtain ⟨rfl, rfl, -⟩ := h.faithful (keeping?_of_getElem? hget)
    (congrArg (Option.map Prod.snd) hactive) hlisten
  exact ⟨holder, binding, hactive, (isBound_iff _ _ _ _).mpr ⟨listener, hlisten⟩⟩

lemma detachEffects_run (owner : EntityId) (b : Board) :
    Board.detachEffects owner b =
      match b.character? owner with
      | none => .error (.unknownEntity owner) b
      | some c =>
        match Board.switchOffEffects c.effects (equipped b owner fun _ => []) with
        | .ok _ b' => .ok c.effects.length b'
        | .error fault b' => .error fault b' := by
  unfold Board.detachEffects Board.character
  cases hc : b.character? owner with
  | none => simp [hc]
  | some c =>
    cases hoff : Board.switchOffEffects c.effects (equipped b owner fun _ => []) <;>
      simp only [equipped] at hoff ⊢ <;> simp [hc, hoff]

/-- Detaching frees the subscriptions of all effects of an owner, or those before the first that is
not heard. -/
lemma detachEffects_cases {b : Board} (h : KeepersFit b) (owner : EntityId) :
    (b.contains owner = false ∧
      Board.detachEffects owner b = .error (.unknownEntity owner) b) ∨
    (b.contains owner = true ∧ (∀ effect ∈ effectsOf b owner, Heard b effect) ∧
      ∃ count b', Board.detachEffects owner b = .ok count b' ∧
        Freed b b' ((effectsOf b owner).filterMap number?)) ∨
    b.contains owner = true ∧ ∃ before silent cut,
      Splits b (effectsOf b owner) before silent cut ∧ ∃ fault b',
        Board.detachEffects owner b = .error fault b' ∧ Freed b b' (before.filterMap number?) := by
  cases hc : b.character? owner with
  | none =>
    have hout : b.contains owner = false := by rw [← character?_isSome, hc]; rfl
    exact .inl ⟨hout, by simp [detachEffects_run, hc]⟩
  | some c =>
    have hin : b.contains owner = true := by rw [← character?_isSome, hc]; rfl
    have heffects := effectsOf_of_character? hc
    have hlistening : listening (equipped b owner fun _ => []) = listening b :=
      listening_modifyCharacter b owner fun _ => rfl
    have hfreed : Freed b (equipped b owner fun _ => []) [] := .of_listening hlistening
    have hheard : ∀ effect, Heard (equipped b owner fun _ => []) effect ↔ Heard b effect :=
      fun _ => hfreed.heard_iff (by simp)
    have hwell : WellFormed (outline (equipped b owner fun _ => [])) := by
      rw [equipped, outline_modifyCharacter]
      exact h.wellFormed
    have hrun := detachEffects_run owner b
    simp only [hc] at hrun
    have hready : ∀ effect ∈ c.effects, Ready effect := fun effect hmem =>
      h.ready (heffects ▸ hmem)
    have hnodup : (c.effects.map number?).Nodup := heffects ▸ h.numbers_nodup owner
    rw [hrun, heffects]
    rcases switchOffEffects_cases (h.toListenersFit.of_fewer hwell hfreed.fewer) hready hnodup with
      ⟨hall, b', hoff, hrest⟩ | ⟨before, silent, cut, ⟨hsplit, hbefore, hsilent⟩, fault, b', hoff,
        hrest⟩
    · exact .inr (.inl ⟨hin, fun effect hmem => (hheard effect).mp (hall effect hmem),
        c.effects.length, b', by simp [hoff], hfreed.trans hrest⟩)
    · exact .inr (.inr ⟨hin, before, silent, cut,
        ⟨hsplit, fun effect hmem => (hheard effect).mp (hbefore effect hmem),
          fun hsounds => hsilent ((hheard silent).mpr hsounds)⟩,
        fault, b', by simp [hoff], hfreed.trans hrest⟩)

lemma upkeep_detachEffects (b : Board) (owner : EntityId) :
    upkeep (leftBy (Board.detachEffects owner) b) =
      (Function.update (effectsOf b) owner [], playerAura? b) := by
  have hrun := detachEffects_run owner b
  cases hc : b.character? owner with
  | none =>
    simp only [hc] at hrun
    have hnone : effectsOf b owner = [] := by simp [effectsOf, hc]
    rw [leftBy_of_error hrun, ← hnone, Function.update_eq_self]
    rfl
  | some c =>
    have hleft : leftBy (Board.detachEffects owner) b =
        leftBy (Board.switchOffEffects c.effects) (equipped b owner fun _ => []) := by
      simp only [hc] at hrun
      unfold leftBy
      cases hoff : Board.switchOffEffects c.effects (equipped b owner fun _ => []) <;> simp [hrun, hoff]
    rw [hleft, ← upkeep_equipped b owner (f := fun _ => []) (.inr rfl)]
    exact releases_effects upkeep_unsubscribe c.effects (equipped b owner fun _ => [])

lemma effectsOf_detach (b : Board) (owner : EntityId) :
    effectsOf (leftBy (Board.detachEffects owner) b) owner = [] := by
  have heffects := congrArg (fun upkeep => upkeep.1 owner) (upkeep_detachEffects b owner)
  simpa [upkeep] using heffects

lemma detach_ok_iff {b : Board} (h : KeepersFit b) (owner : EntityId) :
    (∃ count b', Board.detachEffects owner b = .ok count b') ↔
      b.contains owner = true ∧ ∀ effect ∈ effectsOf b owner, Heard b effect := by
  rcases detachEffects_cases h owner with
    ⟨hout, hrun⟩ | ⟨hin, hall, count, b', hrun, -⟩ |
    ⟨hin, before, silent, cut, ⟨hsplit, -, hsilent⟩, fault, b', hrun, -⟩
  · exact iff_of_false (by simp [hrun]) (by simp [hout])
  · exact iff_of_true ⟨count, b', hrun⟩ ⟨hin, hall⟩
  · refine iff_of_false (by simp [hrun]) fun hboth => hsilent (hboth.2 silent ?_)
    rw [hsplit]
    simp

lemma freed_of_heard {b : Board} (h : KeepersFit b) (owner : EntityId)
    (hheard : ∀ effect ∈ effectsOf b owner, Heard b effect) :
    Freed b (leftBy (Board.detachEffects owner) b) ((effectsOf b owner).filterMap number?) := by
  rcases detachEffects_cases h owner with
    ⟨hout, hrun⟩ | ⟨-, -, count, b', hrun, hfreed⟩ |
    ⟨-, before, silent, cut, ⟨hsplit, -, hsilent⟩, -⟩
  · have hnone : effectsOf b owner = [] := by
      refine List.eq_nil_iff_forall_not_mem.mpr fun effect hmem => ?_
      rw [inPlay_of_mem_effectsOf hmem] at hout
      cases hout
    rw [leftBy_of_error hrun, hnone]
    exact .of_listening rfl
  · rw [leftBy_of_ok hrun]
    exact hfreed
  · refine absurd (hheard silent ?_) hsilent
    rw [hsplit]
    simp

end CardEffects.Proofs
