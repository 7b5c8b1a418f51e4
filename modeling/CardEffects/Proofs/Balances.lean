import CardEffects.Proofs.ActOutcomes

/-!
# Balances

The subscriptions in force are balanced if they are those that were made by hand, as far as their
surfaces are in play, and one for each keeper. What goes and what comes keeps the balance as long as
keepers and their subscriptions come and go together.
-/

namespace CardEffects.Proofs

/-- Whether a keeper has made a subscription on the surface that its event resolves to for its owner
and to the occurrence that its event names. -/
def KeptAt (b : Board) (keeper : Keeper) (surface : EntityId) (event : String) (id : ListenerId)
    (listener : Listener) : Prop :=
  ∃ k, keeping? b keeper = some k ∧ listener = k.listener ∧
    k.On b { target := k.owner, surface, event, listener := id }

lemma KeptAt.place_eq {b : Board} {keeper : Keeper} {surface surface' : EntityId}
    {event event' : String} {id id' : ListenerId} {listener listener' : Listener}
    (h : KeptAt b keeper surface event id listener)
    (h' : KeptAt b keeper surface' event' id' listener') :
    surface = surface' ∧ event = event' ∧ id = id' ∧ listener = listener' := by
  obtain ⟨k, hk, rfl, hon⟩ := h
  obtain ⟨k', hk', rfl, hon'⟩ := h'
  obtain rfl : k = k' := Option.some.inj (hk.symm.trans hk')
  have hbinding := Option.some.inj (hon.binding_eq.symm.trans hon'.binding_eq)
  simp only [Binding.mk.injEq, true_and] at hbinding
  exact ⟨hbinding.1, hbinding.2.1, hbinding.2.2, rfl⟩

section Kept

variable {b b' : Board} {keeper keeper' : Keeper} {surface surface' : EntityId}
  {event event' : String} {id : ListenerId} {listener listener' : Listener}

lemma KeepersFit.keptAt (h : KeepersFit b) {k : Keeping} (hk : keeping? b keeper = some k) :
    ∃ surface id, KeptAt b keeper surface k.event.name id k.listener ∧
      (k.binding.map (·.listener)) = some id := by
  obtain ⟨⟨target, surface, event, id⟩, hon, -⟩ := h.kept hk
  obtain rfl : target = k.owner := hon.target_eq
  obtain rfl : event = k.event.name := hon.event_eq
  exact ⟨surface, id, ⟨k, hk, rfl, hon⟩, by rw [hon.binding_eq]; rfl⟩

lemma KeepersFit.keptAt_lt (h : KeepersFit b) (hkept : KeptAt b keeper surface event id listener) :
    id.raw < b.nextListener := by
  obtain ⟨k, hk, -, hon⟩ := hkept
  obtain ⟨binding, hon', hlt⟩ := h.kept hk
  obtain rfl := Option.some.inj (hon.binding_eq.symm.trans hon'.binding_eq)
  exact hlt

lemma KeepersFit.keeper_eq (h : KeepersFit b) (hkept : KeptAt b keeper surface event id listener)
    (hkept' : KeptAt b keeper' surface' event' id listener') : keeper = keeper' := by
  obtain ⟨k, hk, -, hon⟩ := hkept
  obtain ⟨k', hk', -, hon'⟩ := hkept'
  exact h.apart hk hk' hon.binding_eq hon'.binding_eq rfl

lemma KeptAt.steady (h : KeptAt b keeper surface event id listener) (hsteady : Steady b b')
    (hwell : WellFormed (outline b)) (hwell' : WellFormed (outline b'))
    (hkeep : ∀ k, keeping? b keeper = some k → keeping? b' keeper = some k) :
    KeptAt b' keeper surface event id listener := by
  obtain ⟨k, hk, rfl, hon⟩ := h
  exact ⟨k, hkeep k hk, rfl,
    hon.steady hsteady (owner_inPlay hwell hk) (owner_inPlay hwell' (hkeep k hk))⟩

end Kept

lemma KeepersFit.mem_numbers_iff {b : Board} (h : KeepersFit b) {owner : EntityId}
    {id : ListenerId} : id ∈ (effectsOf b owner).filterMap number? ↔
      ∃ keeper surface event listener, (∃ index, keeper = .effect owner index) ∧
        KeptAt b keeper surface event id listener := by
  rw [List.mem_filterMap]
  constructor
  · rintro ⟨effect, hmem, hid⟩
    obtain ⟨index, hget⟩ := List.mem_iff_getElem?.mp hmem
    obtain ⟨surface, id', hkept, hid'⟩ := h.keptAt (keeping?_of_getElem? hget)
    have hsame : number? effect = some id' := by simpa [effectKeeping, number?] using hid'
    obtain rfl := Option.some.inj (hid.symm.trans hsame)
    exact ⟨_, _, _, _, ⟨index, rfl⟩, hkept⟩
  · rintro ⟨_, surface, event, listener, ⟨index, rfl⟩, k, hk, -, hon⟩
    obtain ⟨effect, hget, rfl⟩ := Option.map_eq_some_iff.mp hk
    obtain ⟨⟨holder, binding⟩, hactive, hbinding⟩ := Option.map_eq_some_iff.mp hon.binding_eq
    refine ⟨effect, List.mem_of_getElem? hget, ?_⟩
    simp only at hbinding
    simp [number?, hactive, hbinding]

lemma KeepersFit.mem_number_iff {b : Board} (h : KeepersFit b) {aura : AuraId} {k : Keeping}
    (hk : keeping? b (.aura aura) = some k) {binding : Binding} (hbinding : k.binding = some binding)
    {id : ListenerId} : id ∈ [binding.listener] ↔
      ∃ keeper surface event listener, keeper = .aura aura ∧
        KeptAt b keeper surface event id listener := by
  rw [List.mem_singleton]
  constructor
  · rintro rfl
    obtain ⟨surface, id, hkept, hid⟩ := h.keptAt hk
    rw [hbinding] at hid
    obtain rfl := Option.some.inj hid
    exact ⟨_, _, _, _, rfl, hkept⟩
  · rintro ⟨_, surface, event, listener, rfl, k', hk', -, hon⟩
    obtain rfl : k = k' := Option.some.inj (hk.symm.trans hk')
    rw [Option.some.inj (hbinding.symm.trans hon.binding_eq)]

/-! ### Balances -/

/-- Whether the subscriptions in force are those made by hand, as far as their surfaces are in play,
and those of keepers. The numbers that were given by hand are no keeper's. -/
structure Balanced (given : ListenerId → Prop)
    (byHand : EntityId → String → ListenerId → Listener → Prop) (b : Board) : Prop where
  given_lt : ∀ {id}, given id → id.raw < b.nextListener
  given_unkept : ∀ {keeper surface event id listener}, given id →
    ¬KeptAt b keeper surface event id listener
  byHand_given : ∀ {surface event id listener}, byHand surface event id listener → given id
  surface_lt : ∀ {surface event id listener}, byHand surface event id listener →
    surface.raw < b.nextEntity
  mem_iff : ∀ {surface event id listener}, (id, listener) ∈ listenersAt b surface event ↔
    byHand surface event id listener ∧ b.contains surface = true ∨
      ∃ keeper, KeptAt b keeper surface event id listener

lemma Balanced.heard {given : ListenerId → Prop}
    {byHand : EntityId → String → ListenerId → Listener → Prop} {b : Board}
    (h : Balanced given byHand b) (hfit : KeepersFit b) {owner : EntityId} {effect : Effect}
    (hmem : effect ∈ effectsOf b owner) : Heard b effect := by
  obtain ⟨index, hget⟩ := List.mem_iff_getElem?.mp hmem
  obtain ⟨surface, id, hkept, hid⟩ := hfit.keptAt (keeping?_of_getElem? hget)
  refine hfit.heard_of_inForce hmem ?_ ⟨_, _, _, h.mem_iff.mpr (.inr ⟨_, hkept⟩)⟩
  simpa [effectKeeping, number?] using hid

/-- One board comes from another by subscriptions that go: those stay that `stays` says, and keepers
drop out together with their subscriptions. -/
structure Shrunk (b b' : Board) (stays : EntityId → ListenerId → Prop) (dropped : Keeper → Prop) :
    Prop where
  steady : Steady b b'
  next_le : b.nextEntity ≤ b'.nextEntity
  nextListener_eq : b'.nextListener = b.nextListener
  mem_iff : ∀ {surface event id listener}, (id, listener) ∈ listenersAt b' surface event ↔
    (id, listener) ∈ listenersAt b surface event ∧ stays surface id
  keeping_iff : ∀ {keeper k}, keeping? b' keeper = some k ↔
    keeping? b keeper = some k ∧ ¬dropped keeper
  stays_iff : ∀ {keeper surface event id listener}, KeptAt b keeper surface event id listener →
    (stays surface id ↔ ¬dropped keeper)

lemma Frame.shrunk {b b' : Board} (h : Frame b b') {gone : List ListenerId}
    (hfreed : Freed b b' gone) {dropped : Keeper → Prop}
    (hkeeping : ∀ {keeper k}, keeping? b' keeper = some k ↔
      keeping? b keeper = some k ∧ ¬dropped keeper)
    (hstays : ∀ {keeper surface event id listener}, KeptAt b keeper surface event id listener →
      (id ∉ gone ↔ ¬dropped keeper)) :
    Shrunk b b' (fun _ id => id ∉ gone) dropped :=
  ⟨h.steady, h.next_le, hfreed.next_eq, hfreed.mem_iff, hkeeping, hstays⟩

lemma Left.shrunk {b b' : Board} {id : EntityId} (h : Left b b' id) (hfit : KeepersFit b) :
    Shrunk b b' (fun surface _ => surface ≠ id) fun _ => False := by
  refine ⟨h.steady, h.next_eq.ge, h.nextListener_eq, ?_, ?_, ?_⟩
  · intro surface event number listener
    rw [h.lists_eq]
    split
    · next hsame => simp [hsame]
    · next hne => simp [hne]
  · rw [keeping?_eq_of_upkeep h.upkeep_eq]
    simp
  · rintro keeper surface event number listener ⟨k, hk, -, hon⟩
    simpa using h.surface_ne hfit hk hon

section Steps

variable {given : ListenerId → Prop} {byHand : EntityId → String → ListenerId → Listener → Prop}
  {b b' : Board} (hfit : KeepersFit b) (hfit' : KeepersFit b')

include hfit hfit'

lemma Shrunk.keptAt_iff {stays : EntityId → ListenerId → Prop} {dropped : Keeper → Prop}
    (h : Shrunk b b' stays dropped) {keeper : Keeper} {surface : EntityId} {event : String}
    {id : ListenerId} {listener : Listener} : KeptAt b' keeper surface event id listener ↔
      KeptAt b keeper surface event id listener ∧ stays surface id := by
  constructor
  · intro hkept
    have hold : KeptAt b keeper surface event id listener :=
      hkept.steady h.steady.symm hfit'.wellFormed hfit.wellFormed fun k hk =>
        (h.keeping_iff.mp hk).1
    obtain ⟨k, hk, -⟩ := hkept
    exact ⟨hold, (h.stays_iff hold).mpr (h.keeping_iff.mp hk).2⟩
  · rintro ⟨hkept, hstays⟩
    exact hkept.steady h.steady hfit.wellFormed hfit'.wellFormed fun k hk =>
      h.keeping_iff.mpr ⟨hk, (h.stays_iff hkept).mp hstays⟩

lemma Balanced.shrunk (h : Balanced given byHand b) {stays : EntityId → ListenerId → Prop}
    {dropped : Keeper → Prop} (hshrunk : Shrunk b b' stays dropped)
    {byHand' : EntityId → String → ListenerId → Listener → Prop}
    (hhand : ∀ {surface event id listener}, byHand' surface event id listener →
      byHand surface event id listener)
    (hstays : ∀ {surface event id listener}, byHand surface event id listener →
      (b.contains surface = true ∧ stays surface id ↔
        byHand' surface event id listener ∧ b'.contains surface = true)) :
    Balanced given byHand' b' where
  given_lt hgiven := by
    rw [hshrunk.nextListener_eq]
    exact h.given_lt hgiven
  given_unkept hgiven hkept :=
    h.given_unkept hgiven ((hshrunk.keptAt_iff hfit hfit').mp hkept).1
  byHand_given hby := h.byHand_given (hhand hby)
  surface_lt hby := lt_of_lt_of_le (h.surface_lt (hhand hby)) hshrunk.next_le
  mem_iff {surface event id listener} := by
    simp only [hshrunk.mem_iff, h.mem_iff, hshrunk.keptAt_iff hfit hfit', or_and_right,
      ← exists_and_right]
    refine or_congr_left ?_
    rw [and_assoc]
    constructor
    · rintro ⟨hby, hrest⟩
      exact (hstays hby).mp hrest
    · rintro ⟨hby, hin⟩
      exact ⟨hhand hby, (hstays (hhand hby)).mpr ⟨hby, hin⟩⟩

lemma Balanced.of_dropped (h : Balanced given byHand b) (hframe : Frame b b')
    {gone : List ListenerId} (hfreed : Freed b b' gone) (dropped : Keeper → Prop)
    (hkeeping : ∀ {keeper k}, keeping? b' keeper = some k ↔
      keeping? b keeper = some k ∧ ¬dropped keeper)
    (hgone : ∀ {id}, id ∈ gone ↔ ∃ keeper surface event listener, dropped keeper ∧
      KeptAt b keeper surface event id listener) : Balanced given byHand b' := by
  have hshrunk : Shrunk b b' (fun _ id => id ∉ gone) dropped := by
    refine hframe.shrunk hfreed hkeeping fun hkept => not_congr (hgone.trans ⟨?_, ?_⟩)
    · rintro ⟨other, _, _, _, hdropped, hother⟩
      exact hfit.keeper_eq hother hkept ▸ hdropped
    · exact fun hdropped => ⟨_, _, _, _, hdropped, hkept⟩
  refine h.shrunk hfit hfit' hshrunk (fun hby => hby) fun {surface event id listener} hby => ?_
  rw [hframe.contains_eq surface (h.surface_lt hby)]
  refine ⟨fun hboth => ⟨hby, hboth.1⟩, fun hboth => ⟨hboth.2, fun hmem => ?_⟩⟩
  obtain ⟨_, _, _, _, -, hkept⟩ := hgone.mp hmem
  exact h.given_unkept (h.byHand_given hby) hkept

lemma Balanced.of_idle (h : Balanced given byHand b) (hidle : Idle b b') :
    Balanced given byHand b' := by
  refine h.of_dropped hfit hfit' hidle.toFrame (.of_listening hidle.listening_eq)
    (fun _ => False) ?_ (by simp)
  rw [keeping?_eq_of_upkeep hidle.upkeep_eq]
  simp

lemma Balanced.left (h : Balanced given byHand b) {id : EntityId} (hleft : Left b b' id) :
    Balanced given byHand b' := by
  refine h.shrunk hfit hfit' (hleft.shrunk hfit) (fun hby => hby) fun {surface _ _ _} hby => ?_
  rw [hleft.contains_eq]
  split
  · next hsame => simp [hsame]
  · next hne => simp [hne, hby]

lemma Balanced.released (h : Balanced given byHand b) {surface : EntityId} {event : String}
    {id : ListenerId} (hframe : Frame b b') (hfreed : Freed b b' [id])
    (hbound : b.isBound surface event id = true) (hupkeep : upkeep b' = upkeep b)
    (hgiven : given id) :
    Balanced given (fun surface' event' id' listener => byHand surface' event' id' listener ∧
      ¬(surface' = surface ∧ event' = event ∧ id' = id)) b' := by
  have hshrunk : Shrunk b b' (fun _ id' => id' ∉ [id]) fun _ => False := by
    refine hframe.shrunk hfreed ?_ fun hkept => ?_
    · rw [keeping?_eq_of_upkeep hupkeep]
      simp
    · refine iff_of_true ?_ not_false
      rw [List.mem_singleton]
      rintro rfl
      exact h.given_unkept hgiven hkept
  refine h.shrunk hfit hfit' hshrunk And.left fun {surface' event' id' listener} hby => ?_
  rw [hframe.contains_eq surface' (h.surface_lt hby), List.mem_singleton]
  constructor
  · rintro ⟨hin, hne⟩
    exact ⟨⟨hby, fun hsame => hne hsame.2.2⟩, hin⟩
  · rintro ⟨⟨-, hother⟩, hin⟩
    refine ⟨hin, ?_⟩
    rintro rfl
    obtain ⟨listener', hmem⟩ := (isBound_iff _ _ _ _).mp hbound
    have hplace := hfit.place_eq (h.mem_iff.mpr (.inl ⟨hby, hin⟩)) hmem
    exact hother ⟨hplace.1, hplace.2, rfl⟩

/-! #### What is new -/

lemma Balanced.listened (h : Balanced given byHand b) {surface : EntityId} {event : String}
    {listener : Listener} (hframe : Frame b b') (hgained : Gained b b' surface event listener)
    (hin : b.contains surface = true) (hupkeep : upkeep b' = upkeep b) :
    Balanced (fun id => given id ∨ id = ⟨b.nextListener⟩)
      (fun surface' event' id other => byHand surface' event' id other ∨
        surface = surface' ∧ event = event' ∧ id = ⟨b.nextListener⟩ ∧ other = listener) b' := by
  have hkept : ∀ {keeper surface event id listener},
      KeptAt b' keeper surface event id listener ↔ KeptAt b keeper surface event id listener := by
    have hkeep := keeping?_eq_of_upkeep hupkeep
    intro keeper surface event id listener
    constructor
    · exact fun hold => hold.steady hframe.steady.symm hfit'.wellFormed hfit.wellFormed
        fun k hk => hkeep ▸ hk
    · exact fun hold => hold.steady hframe.steady hfit.wellFormed hfit'.wellFormed
        fun k hk => hkeep.symm ▸ hk
  have hlt := number_lt_of_contains hfit.wellFormed hin
  constructor
  · rintro id (hgiven | rfl) <;> rw [hgained.next_eq]
    · exact Nat.lt_succ_of_lt (h.given_lt hgiven)
    · exact Nat.lt_succ_self _
  · rintro keeper surface' event' id other (hgiven | rfl) hold <;> rw [hkept] at hold
    · exact h.given_unkept hgiven hold
    · exact lt_irrefl _ (hfit.keptAt_lt hold)
  · rintro surface' event' id other (hby | ⟨-, -, rfl, -⟩)
    · exact .inl (h.byHand_given hby)
    · exact .inr rfl
  · rintro surface' event' id other (hby | ⟨rfl, -, -, -⟩)
    · exact lt_of_lt_of_le (h.surface_lt hby) hframe.next_le
    · exact lt_of_lt_of_le hlt hframe.next_le
  · intro surface' event' id other
    simp only [hgained.mem_iff, h.mem_iff, hkept]
    have hin' : b'.contains surface = true := (hframe.contains_eq _ hlt).trans hin
    constructor
    · rintro ((⟨hby, hplay⟩ | hold) | ⟨rfl, rfl, rfl, rfl⟩)
      · exact .inl ⟨.inl hby, (hframe.contains_eq _ (h.surface_lt hby)).trans hplay⟩
      · exact .inr hold
      · exact .inl ⟨.inr ⟨rfl, rfl, rfl, rfl⟩, hin'⟩
    · rintro (⟨hby | hnew, hplay⟩ | hold)
      · exact .inl (.inl ⟨hby, (hframe.contains_eq _ (h.surface_lt hby)).symm.trans hplay⟩)
      · exact .inr hnew
      · exact .inl (.inr hold)

lemma Balanced.of_kept (h : Balanced given byHand b) {surface : EntityId} {event : String}
    {listener : Listener} (hframe : Frame b b') (hgained : Gained b b' surface event listener)
    (new : Keeper) {k : Keeping}
    (hon : k.On b' { target := k.owner, surface, event, listener := ⟨b.nextListener⟩ })
    (hlistener : k.listener = listener)
    (hkeeping : ∀ keeper k', keeping? b' keeper = some k' ↔
      keeping? b keeper = some k' ∨ keeper = new ∧ k' = k) : Balanced given byHand b' := by
  have hkept : ∀ {keeper surface' event' id other},
      KeptAt b' keeper surface' event' id other ↔ KeptAt b keeper surface' event' id other ∨
        keeper = new ∧ surface = surface' ∧ event = event' ∧ id = ⟨b.nextListener⟩ ∧
          other = listener := by
    subst hlistener
    intro keeper surface' event' id other
    constructor
    · rintro ⟨k', hk, rfl, hon'⟩
      rcases (hkeeping keeper k').mp hk with hold | ⟨rfl, rfl⟩
      · have howner := owner_inPlay hfit.wellFormed hold
        have howner' := owner_inPlay hfit'.wellFormed hk
        exact .inl ⟨k', hold, rfl, hon'.steady hframe.steady.symm howner' howner⟩
      · have hbinding := Option.some.inj (hon.binding_eq.symm.trans hon'.binding_eq)
        simp only [Binding.mk.injEq, true_and] at hbinding
        exact .inr ⟨rfl, hbinding.1, hbinding.2.1, hbinding.2.2.symm, rfl⟩
    · rintro (hold | ⟨rfl, rfl, rfl, rfl, rfl⟩)
      · exact hold.steady hframe.steady hfit.wellFormed hfit'.wellFormed
          fun k' hk => (hkeeping _ _).mpr (.inl hk)
      · exact ⟨k, (hkeeping _ _).mpr (.inr ⟨rfl, rfl⟩), rfl, hon⟩
  constructor
  · intro id hgiven
    rw [hgained.next_eq]
    exact Nat.lt_succ_of_lt (h.given_lt hgiven)
  · intro keeper surface' event' id other hgiven hold
    rcases hkept.mp hold with hold | ⟨-, -, -, rfl, -⟩
    · exact h.given_unkept hgiven hold
    · exact lt_irrefl _ (h.given_lt hgiven)
  · exact h.byHand_given
  · exact fun hby => lt_of_lt_of_le (h.surface_lt hby) hframe.next_le
  · intro surface' event' id other
    simp only [hgained.mem_iff, h.mem_iff, hkept, exists_or, exists_eq_left, or_assoc]
    refine or_congr_left ?_
    constructor
    · rintro ⟨hby, hin⟩
      exact ⟨hby, (hframe.contains_eq _ (h.surface_lt hby)).trans hin⟩
    · rintro ⟨hby, hin⟩
      exact ⟨hby, (hframe.contains_eq _ (h.surface_lt hby)).symm.trans hin⟩

/-! #### What is done otherwise than by hand -/

/-- Whether an act subscribes or releases by itself, and not for a keeper. -/
def Act.ByHand : Act → Prop
  | .listen _ _ _ | .release _ _ _ => True
  | _ => False

/-- Whatever is not done by hand leaves what was made by hand as it was, as long as no player aura
fails to be removed. -/
lemma Balanced.outcome (h : Balanced given byHand b) {act : Act} (hout : Outcome b act b')
    (hhand : ¬act.ByHand)
    (hremove : ∀ id, act = .removeAura id →
      playerAura? b id = none ∨ ∃ b', Board.removeAura id b = .ok () b') :
    Balanced given byHand b' := by
  cases hout with
  | failed hrun hkeeps => exact h
  | idle hplain hidle => exact h.of_idle hfit hfit' hidle
  | left hleft => exact h.left hfit hfit' hleft
  | listened => exact absurd trivial hhand
  | released => exact absurd trivial hhand
  | attached hrun hattached =>
    exact h.of_kept hfit hfit' hattached.frame hattached.gained _ hattached.on rfl
      hattached.keeping
  | @detached owner b' hleft =>
    subst hleft
    have hfreed := freed_of_heard hfit owner fun effect hmem => h.heard hfit hmem
    refine h.of_dropped hfit hfit' (detach_frame hfit _) hfreed _ ?_ hfit.mem_numbers_iff
    intro keeper k
    rw [keeping?_detached, not_exists]
  | added hadded =>
    have hfresh := playerAura?_fresh hfit
    exact h.of_kept hfit hfit' hadded.frame hadded.gained _ (hadded.on hfresh) rfl
      (hadded.keeping hfresh)
  | @removed id slot aura b' hleft hget =>
    subst hleft
    obtain ⟨b', hok⟩ := (hremove id rfl).resolve_left (by simp [hget])
    obtain ⟨binding, hbinding, hfreed⟩ := freed_of_removeAura hfit hget hok
    have hk : keeping? b (.aura id) = some (auraKeeping slot aura) := by simp [keeping?, hget]
    have hremoved := removed hfit id
    rw [leftBy_of_ok hok] at hfit' hremoved ⊢
    exact h.of_dropped hfit hfit' hremoved.frame hfreed (· = .aura id) (hremoved.keeping _ _)
      (hfit.mem_number_iff hk hbinding)

end Steps

end CardEffects.Proofs
