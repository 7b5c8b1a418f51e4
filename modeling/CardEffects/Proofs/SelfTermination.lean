import CardEffects.Proofs.Lapses
import CardEffects.Proofs.MarkedBoards
import CardEffects.Proofs.Remainders
import CardEffects.Proofs.Scopes
import CardEffects.Proofs.UnspentEndings

/-!
# Self-termination

An occurrence to which only endings of auras are subscribed ends the auras whose condition accepts
it and no others, as if these were removed by hand in the order of their subscriptions. No removal
has a part in what the conditions of the others say, as these ask who is in play and on which side.
-/

namespace CardEffects.Proofs

/-! ### Conditions -/

mutual

lemma holds_eq_of_seating {b b' : Board} (h : seating b' = seating b) (target : EntityId)
    (args : Payload) (condition : Condition) :
    condition.holds b' target args = condition.holds b target args := by
  cases condition with
  | isSelf => rfl
  | isMinion =>
    unfold Condition.holds
    rw [isMinion_eq_of_seating h]
  | isHero =>
    have hseat : b'.seat? = b.seat? := by
      funext entity
      unfold Board.seat?
      rw [playerCount_eq_of_seating h]
    unfold Condition.holds
    rw [hseat]
  | focusIsFriendly =>
    have hcontroller : b'.controller? = b.controller? := funext (controller?_eq_of_seating h)
    unfold Condition.holds
    rw [hcontroller]
  | amountAtLeast min => rfl
  | negation inner =>
    unfold Condition.holds
    rw [holds_eq_of_seating h target args inner]
  | all conditions =>
    unfold Condition.holds
    exact (allHold_eq_of_seating h target args conditions).1
  | any conditions =>
    unfold Condition.holds
    exact (allHold_eq_of_seating h target args conditions).2

lemma allHold_eq_of_seating {b b' : Board} (h : seating b' = seating b) (target : EntityId)
    (args : Payload) (conditions : List Condition) :
    Condition.allHold b' target args conditions = Condition.allHold b target args conditions ∧
      Condition.anyHolds b' target args conditions =
        Condition.anyHolds b target args conditions := by
  cases conditions with
  | nil => exact ⟨rfl, rfl⟩
  | cons condition conditions =>
    have hfirst := holds_eq_of_seating h target args condition
    obtain ⟨hall, hany⟩ := allHold_eq_of_seating h target args conditions
    unfold Condition.allHold Condition.anyHolds
    rw [hfirst, hall, hany]
    exact ⟨rfl, rfl⟩

end

/-- Whether a subscription heeds an occurrence that reports `args`. -/
def heeds (b : Board) (args : Payload) (listener : Listener) : Bool :=
  listener.gate.all fun gate => gate.1.holds b gate.2 args

lemma heeds_eq_of_seating {b b' : Board} (h : seating b' = seating b) (args : Payload) :
    heeds b' args = heeds b args := by
  funext listener
  unfold heeds
  cases listener.gate with
  | none => rfl
  | some gate => exact holds_eq_of_seating h gate.2 args gate.1

variable {σ : Type}

lemma call_run (fire : Firing σ) (id : ListenerId) (listener : Listener) (args : Payload)
    (game : Game σ) :
    Game.call fire id listener args game =
      if heeds game.board args listener then
        Game.handle fire id args listener.handler game
      else .ok () game := by
  unfold Game.call heeds
  cases listener.gate with
  | none => rfl
  | some gate =>
    obtain ⟨condition, target⟩ := gate
    cases hholds : condition.holds game.board target args <;> simp [hholds]

/-! ### One pass over endings -/

/-- The aura that a subscription ends. -/
def endedAura? (listener : Listener) : Option AuraId :=
  match listener.handler with
  | .endAura aura => some aura
  | _ => none

/-- The auras that an occurrence ends, in the order of their subscriptions. -/
def ended (b : Board) (args : Payload) (list : List (ListenerId × Listener)) : List AuraId :=
  (list.filter fun entry => heeds b args entry.2).filterMap fun entry => endedAura? entry.2

/-- Subscriptions of a pass that are endings of registered player auras and have not been called. -/
structure EndingsOnly (b : Board) (spent : List ListenerId) (surface : EntityId) (event : String)
    (list : List (ListenerId × Listener)) : Prop where
  kept : ∀ entry ∈ list, ∃ aura, KeptAt b (.aura aura) surface event entry.1 entry.2
  sublist : list.Sublist (listenersAt b surface event)
  unspent : ∀ entry ∈ list, entry.1 ∉ spent

section Passes

variable {b b' : Board} {surface : EntityId} {event : String} {id : ListenerId}
  {listener : Listener} {args : Payload} {aura : AuraId}

lemma KeptAt.endedAura? (h : KeptAt b (.aura aura) surface event id listener)
    (hfit : KeepersFit b) : endedAura? listener = some aura := by
  obtain ⟨k, hk, rfl, -⟩ := h
  obtain ⟨⟨slot, player⟩, hget, rfl⟩ := Option.map_eq_some_iff.mp hk
  exact congrArg some (hfit.wellFormed.fits aura _ (playerAura?_eq_some.mp hget)).id_eq

lemma KeptAt.registered (h : KeptAt b (.aura aura) surface event id listener) :
    ∃ slot player, playerAura? b aura = some (slot, player) := by
  obtain ⟨k, hk, -, -⟩ := h
  obtain ⟨⟨slot, player⟩, hget, -⟩ := Option.map_eq_some_iff.mp hk
  exact ⟨slot, player, hget⟩

lemma KeptAt.ending?_eq (h : KeptAt b (.aura aura) surface event id listener) :
    ending? b aura = some id := by
  obtain ⟨k, hk, -, hon⟩ := h
  simp [ending?, hk, hon.binding_eq]

lemma KeptAt.handler_eq (h : KeptAt b (.aura aura) surface event id listener)
    (hfit : KeepersFit b) : listener.handler = .endAura aura := by
  have hended := h.endedAura? hfit
  unfold CardEffects.Proofs.endedAura? at hended
  split at hended
  · next hhandler => rw [hhandler, Option.some.inj hended]
  · cases hended

variable {spent : List ListenerId} {list rest : List (ListenerId × Listener)}
  {entry : ListenerId × Listener}

lemma EndingsOnly.tail (h : EndingsOnly b spent surface event (entry :: rest)) :
    EndingsOnly b spent surface event rest where
  kept other hother := h.kept other (List.mem_cons_of_mem _ hother)
  sublist := (List.sublist_cons_self entry rest).trans h.sublist
  unspent other hother := h.unspent other (List.mem_cons_of_mem _ hother)

lemma EndingsOnly.head_ne (h : EndingsOnly b spent surface event (entry :: rest))
    (hfit : KeepersFit b) {other : ListenerId × Listener} (hother : other ∈ rest) :
    other.1 ≠ entry.1 := by
  have hnodup : ((entry :: rest).map (·.1)).Nodup :=
    (h.sublist.map _).nodup (hfit.nodup surface event)
  intro hsame
  have hmem : other.1 ∈ rest.map (·.1) := List.mem_map_of_mem hother
  rw [hsame] at hmem
  exact (List.nodup_cons.mp hnodup).1 hmem

lemma EndingsOnly.lapsed (h : EndingsOnly b spent surface event ((id, listener) :: rest))
    (hfit : KeepersFit b) (hkept : KeptAt b (.aura aura) surface event id listener)
    (hlapsed : Lapsed b b' [aura]) :
    EndingsOnly b' (id :: spent) surface event rest where
  kept other hother := by
    obtain ⟨aura', hkept'⟩ := h.kept other (List.mem_cons_of_mem _ hother)
    refine ⟨aura', hlapsed.keptAt hfit hkept' fun gone hgone hsame => ?_⟩
    obtain rfl := List.mem_singleton.mp hgone
    rw [Keeper.aura.inj hsame] at hkept'
    exact h.head_ne hfit hother (hkept'.place_eq hkept).2.2.1
  sublist := by
    have hkeep : rest.filter (fun other => other.1 ∉ [id]) = rest :=
      List.filter_eq_self.mpr fun other hother => by simpa using h.head_ne hfit hother
    rw [hlapsed.freed.lists_eq, ← hkeep]
    simp only [List.filterMap_cons, hkept.ending?_eq, List.filterMap_nil]
    exact h.tail.sublist.filter _
  unspent other hother := by
    rw [List.mem_cons, not_or]
    exact ⟨h.head_ne hfit hother, h.tail.unspent other hother⟩

lemma EndingsOnly.mem_ended_iff (h : EndingsOnly b spent surface event list) (hfit : KeepersFit b) :
    aura ∈ ended b args list ↔ ∃ entry ∈ list, heeds b args entry.2 = true ∧
      KeptAt b (.aura aura) surface event entry.1 entry.2 := by
  simp only [ended, List.mem_filterMap, List.mem_filter]
  constructor
  · rintro ⟨entry, ⟨hmem, hheeds⟩, hended⟩
    obtain ⟨aura', hkept⟩ := h.kept entry hmem
    obtain rfl := Option.some.inj ((hkept.endedAura? hfit).symm.trans hended)
    exact ⟨entry, hmem, hheeds, hkept⟩
  · rintro ⟨entry, hmem, hheeds, hkept⟩
    exact ⟨entry, ⟨hmem, hheeds⟩, hkept.endedAura? hfit⟩

lemma EndingsOnly.ended_ne (h : EndingsOnly b spent surface event ((id, listener) :: rest))
    (hfit : KeepersFit b) (hkept : KeptAt b (.aura aura) surface event id listener) {other : AuraId}
    (hother : other ∈ ended b args rest) : other ≠ aura := by
  rintro rfl
  obtain ⟨entry, hmem, -, hkept'⟩ := (h.tail.mem_ended_iff hfit).mp hother
  exact h.head_ne hfit hmem (hkept'.place_eq hkept).2.2.1

lemma ended_eq_of_seating (h : seating b' = seating b) :
    ended b' args list = ended b args list := by
  unfold ended
  rw [heeds_eq_of_seating h]

lemma ended_cons_of_heeded (h : heeds b args listener = true)
    (hended : endedAura? listener = some aura) :
    ended b args ((id, listener) :: rest) = aura :: ended b args rest := by
  simp [ended, h, hended]

lemma ended_cons_of_unheeded (h : heeds b args listener = false) :
    ended b args ((id, listener) :: rest) = ended b args rest := by
  simp [ended, h]

end Passes

lemma removeAuras_cons_of_ok {id : AuraId} {ids : List AuraId} {b b' : Board}
    (h : Board.removeAura id b = .ok () b') :
    Board.removeAuras (id :: ids) b = Board.removeAuras ids b' := by
  change (Board.removeAura id >>= fun _ => Board.removeAuras ids) b = _
  rw [bind_run, h]

lemma call_ending (fire : Firing σ) {surface : EntityId} {event : String} {args : Payload}
    {id : ListenerId} {listener : Listener} {aura : AuraId} {b : Board} {spent : List ListenerId}
    {stack : List (EntityId × String)} (hfit : KeepersFit b)
    (hkept : KeptAt b (.aura aura) surface event id listener) (hfresh : id ∉ spent)
    (hheed : heeds b args listener = true) {game game₁ : Game σ}
    (hboard : game.board = marked b spent stack)
    (hcall : Game.call fire id listener args game = .ok () game₁) :
    ∃ b₁, Board.removeAura aura b = .ok () b₁ ∧ Lapsed b b₁ [aura] ∧
      game₁ = { game with board := marked b₁ (id :: spent) stack } := by
  have hseating : seating game.board = seating b := by
    rw [hboard]
    rfl
  rw [call_run, heeds_eq_of_seating hseating, if_pos hheed, hkept.handler_eq hfit] at hcall
  obtain ⟨b₂, hend, rfl⟩ := onBoard_eq_ok.mp hcall
  have hunspent : id ∉ (marked b spent stack).spent := hfresh
  rw [hboard, endAura_run, if_neg hunspent] at hend
  -- The removal does its work whatever the marks are.
  have hmark : { marked b spent stack with spent := id :: (marked b spent stack).spent } =
      marked b (id :: spent) stack := rfl
  rw [hmark] at hend
  obtain ⟨b₁, hremove, rfl⟩ := (overlooks_removeAura aura).ok hend
  obtain ⟨slot, player, hget⟩ := hkept.registered
  exact ⟨b₁, hremove, hfit.lapsed hget hremove, rfl⟩

/-- A pass over endings that ends well has removed the auras that the occurrence ends, one after
another, and has done nothing else to the board but use endings up. -/
lemma callEach_endings (fire : Firing σ) {surface : EntityId} {event : String} {args : Payload}
    {list : List (ListenerId × Listener)} {b : Board} {spent : List ListenerId}
    {stack : List (EntityId × String)} (hfit : KeepersFit b)
    (hends : EndingsOnly b spent surface event list) {game game' : Game σ}
    (hboard : game.board = marked b spent stack)
    (hrun : Game.callEach fire surface event args list game = .ok () game') :
    ∃ b' spent', Board.removeAuras (ended b args list) b = .ok () b' ∧
      Lapsed b b' (ended b args list) ∧ game' = { game with board := marked b' spent' stack } := by
  induction list generalizing b spent game with
  | nil =>
    cases hrun
    exact ⟨b, spent, rfl, hfit.lapsed_self, by rw [← hboard]⟩
  | cons entry rest ih =>
    obtain ⟨id, listener⟩ := entry
    obtain ⟨aura, hkept⟩ := hends.kept _ List.mem_cons_self
    have hbound : game.board.isBound surface event id = true := by
      rw [hboard]
      exact (isBound_iff b surface event id).mpr ⟨listener, hends.sublist.mem List.mem_cons_self⟩
    rw [callEach_cons_run, if_pos hbound] at hrun
    obtain ⟨_, game₁, hcall, hrest⟩ := bind_ok hrun
    cases hheed : heeds b args listener with
    | false =>
      have hseating : seating game.board = seating b := by
        rw [hboard]
        rfl
      rw [call_run, heeds_eq_of_seating hseating, if_neg (by simp [hheed])] at hcall
      cases hcall
      rw [ended_cons_of_unheeded hheed]
      exact ih hfit hends.tail hboard hrest
    | true =>
      have hfresh : id ∉ spent := hends.unspent _ List.mem_cons_self
      obtain ⟨b₁, hremove, hlapsed, rfl⟩ :=
        call_ending fire hfit hkept hfresh hheed hboard hcall
      obtain ⟨b', spent', hremoves, hlapses, rfl⟩ :=
        ih hlapsed.keepersFit (hends.lapsed hfit hkept hlapsed) rfl hrest
      have hsame : ended b₁ args rest = ended b args rest := ended_eq_of_seating hlapsed.seating_eq
      rw [hsame] at hremoves hlapses
      rw [ended_cons_of_heeded hheed (hkept.endedAura? hfit)]
      refine ⟨b', spent', (removeAuras_cons_of_ok hremove).trans hremoves, ?_, rfl⟩
      refine hlapsed.trans hlapses fun other hother => ?_
      simpa using hends.ended_ne hfit hkept hother

/-- What is fired where all subscriptions are endings of registered player auras. -/
lemma fire_endings {surface : EntityId} {event : String} {args : Payload} {game game' : Game σ}
    (hfit : KeepersFit game.board)
    (hends : EndingsOnly game.board game.board.spent surface event
      (listenersAt game.board surface event))
    (hrun : Game.fire surface event args game = .ok () game') :
    ∃ b', Board.removeAuras (ended game.board args (listenersAt game.board surface event))
        game.board = .ok () b' ∧
      Lapsed game.board b' (ended game.board args (listenersAt game.board surface event)) ∧
      game' = { game with board := { b' with spent := game'.board.spent } } := by
  change Game.fireWithin game.budget surface event args game = .ok () game' at hrun
  cases hrefusal : refusal? game.board surface event with
  | some fault =>
    rw [fireWithin_refused args hrefusal] at hrun
    cases hrun
  | none =>
    rw [fireWithin_answered args hrefusal] at hrun
    split at hrun
    · next hnone =>
      cases hrun
      rw [hnone]
      exact ⟨game.board, rfl, hfit.lapsed_self, rfl⟩
    · obtain ⟨result, game₁, hpass, hleave⟩ := bind_ok hrun
      obtain ⟨_, game₂, hleft, hsettle⟩ := bind_ok hleave
      cases result with
      | error fault => cases hsettle
      | ok _ =>
        cases hleft
        cases hsettle
        have hcalls := attempt_eq_ok.mp hpass
        have hentered : { game with board := entered game.board surface event }.board =
            marked game.board game.board.spent ((surface, event) :: game.board.dispatching) := rfl
        obtain ⟨b', spent', hremoves, hlapsed, rfl⟩ :=
          callEach_endings _ hfit hends hentered hcalls
        refine ⟨b', hremoves, hlapsed, ?_⟩
        have hworks : Works game.board (leftBy (Board.removeAuras _) game.board) :=
          within_removeAuras (ended game.board args (listenersAt game.board surface event)) _
        rw [leftBy_of_ok hremoves] at hworks
        have hstack : b'.dispatching = game.board.dispatching :=
          congrArg (·.2.1) hworks.course_eq
        simp [marked, ← hstack]

/-! ### What has ended -/

/-- What an occurrence has done that found endings of registered player auras only. -/
structure Terminated (b b' : Board) (surface : EntityId) (event : String) (args : Payload)
    (ids : List AuraId) : Prop where
  nodup : ids.Nodup
  /-- Of the auras whose endings are in force, those end whose condition accepts the occurrence for
  their owner. -/
  mem_iff : ∀ {aura slot player id listener}, playerAura? b aura = some (slot, player) →
    KeptAt b (.aura aura) surface event id listener →
      (id, listener) ∈ listenersAt b surface event →
        (aura ∈ ids ↔ ∀ condition ∈ player.ending.condition,
          condition.holds b slot.owner args = true)
  in_force : ∀ {aura}, aura ∈ ids → ∃ id listener, (id, listener) ∈ listenersAt b surface event ∧
    KeptAt b (.aura aura) surface event id listener
  auras_eq : b'.auras = b.auras.filter fun entry => entry.1 ∉ ids
  silent : ∀ {aura surface' event' id listener}, aura ∈ ids →
    KeptAt b (.aura aura) surface' event' id listener → ¬InForce b' id
  stays : ∀ {keeper surface' event' id listener}, KeptAt b keeper surface' event' id listener →
    (∀ aura ∈ ids, keeper ≠ .aura aura) → KeptAt b' keeper surface' event' id listener
  list_eq : listenersAt b' surface event =
    (listenersAt b surface event).filter fun entry => !heeds b args entry.2
  others_eq : ∀ surface' event', (surface', event') ≠ (surface, event) →
    listenersAt b' surface' event' = listenersAt b surface' event'
  contains_eq : b'.contains = b.contains
  level_eq : ∀ entity key,
    level b' entity key = level b entity key - (ids.map (share b entity key)).sum

lemma heeds_keeping (b : Board) (args : Payload) (k : Keeping) :
    heeds b args k.listener = true ↔
      ∀ condition ∈ k.event.condition, condition.holds b k.owner args = true := by
  unfold heeds Keeping.listener
  cases k.event.condition <;> simp

section Terminated

variable {b b' : Board} {spent : List ListenerId} {surface : EntityId} {event : String}
  {args : Payload}

lemma EndingsOnly.ended_nodup {list : List (ListenerId × Listener)}
    (h : EndingsOnly b spent surface event list) (hfit : KeepersFit b) :
    (ended b args list).Nodup := by
  induction list with
  | nil => exact List.nodup_nil
  | cons entry rest ih =>
    obtain ⟨id, listener⟩ := entry
    obtain ⟨aura, hkept⟩ := h.kept _ List.mem_cons_self
    cases hheed : heeds b args listener with
    | false =>
      rw [ended_cons_of_unheeded hheed]
      exact ih h.tail
    | true =>
      rw [ended_cons_of_heeded hheed (hkept.endedAura? hfit)]
      exact List.nodup_cons.mpr
        ⟨fun hmem => h.ended_ne hfit hkept hmem rfl, ih h.tail⟩

lemma EndingsOnly.mem_numbers_iff
    (h : EndingsOnly b spent surface event (listenersAt b surface event)) (hfit : KeepersFit b)
    {entry : ListenerId × Listener} (hentry : entry ∈ listenersAt b surface event) :
    entry.1 ∈ (ended b args (listenersAt b surface event)).filterMap (ending? b) ↔
      heeds b args entry.2 = true := by
  rw [List.mem_filterMap]
  constructor
  · rintro ⟨aura, hended, hending⟩
    obtain ⟨other, hother, hheeds, hkept⟩ := (h.mem_ended_iff hfit).mp hended
    have hsame : other.1 = entry.1 := Option.some.inj (hkept.ending?_eq.symm.trans hending)
    rwa [← List.inj_on_of_nodup_map (hfit.nodup surface event) hother hentry hsame]
  · intro hheeds
    obtain ⟨aura, hkept⟩ := h.kept entry hentry
    exact ⟨aura, (h.mem_ended_iff hfit).mpr ⟨entry, hentry, hheeds, hkept⟩, hkept.ending?_eq⟩

lemma Lapsed.terminated (hfit : KeepersFit b)
    (hends : EndingsOnly b spent surface event (listenersAt b surface event))
    (h : Lapsed b b' (ended b args (listenersAt b surface event))) :
    Terminated b b' surface event args (ended b args (listenersAt b surface event)) where
  nodup := hends.ended_nodup hfit
  mem_iff {aura slot player id listener} hget hkept hmem := by
    have hlistener : listener = (auraKeeping slot player).listener := by
      obtain ⟨k, hk, rfl, -⟩ := hkept
      simp only [keeping?, hget, Option.map_some, Option.some.injEq] at hk
      rw [hk]
    refine (hends.mem_ended_iff hfit).trans
      (Iff.trans ?_ (heeds_keeping b args (auraKeeping slot player)))
    rw [← hlistener]
    constructor
    · rintro ⟨entry, -, hheeds, hkept'⟩
      rwa [(hkept.place_eq hkept').2.2.2]
    · exact fun hheeds => ⟨_, hmem, hheeds, hkept⟩
  in_force {aura} hended := by
    obtain ⟨entry, hmem, -, hkept⟩ := (hends.mem_ended_iff hfit).mp hended
    exact ⟨entry.1, entry.2, hmem, hkept⟩
  auras_eq := h.auras_eq
  silent hended hkept := by
    obtain ⟨entry, -, -, hkept'⟩ := (hends.mem_ended_iff hfit).mp hended
    rw [(hkept.place_eq hkept').2.2.1]
    exact h.freed.not_inForce (List.mem_filterMap.mpr ⟨_, hended, hkept'.ending?_eq⟩)
  stays hkept hother := h.keptAt hfit hkept hother
  list_eq := by
    rw [h.freed.lists_eq]
    refine List.filter_congr fun entry hentry => ?_
    have hiff : entry.1 ∈ (ended b args (listenersAt b surface event)).filterMap (ending? b) ↔
        heeds b args entry.2 = true := hends.mem_numbers_iff hfit hentry
    cases hheeds : heeds b args entry.2 <;> simp [hiff, hheeds]
  others_eq surface' event' hother := by
    rw [h.freed.lists_eq]
    refine List.filter_eq_self.mpr fun entry hentry => decide_eq_true fun hgone => hother ?_
    obtain ⟨aura, hended, hending⟩ := List.mem_filterMap.mp hgone
    obtain ⟨⟨id, listener⟩, hmem, -, hkept⟩ := (hends.mem_ended_iff hfit).mp hended
    obtain rfl : id = entry.1 := Option.some.inj (hkept.ending?_eq.symm.trans hending)
    obtain ⟨hsurface, hevent⟩ := hfit.place_eq hentry hmem
    exact Prod.ext hsurface hevent
  contains_eq := contains_eq_of_seating h.seating_eq
  level_eq := h.level_eq

lemma Terminated.of_spent {ids : List AuraId} (h : Terminated b b' surface event args ids)
    (spent : List ListenerId) :
    Terminated b { b' with spent } surface event args ids where
  nodup := h.nodup
  mem_iff := h.mem_iff
  in_force := h.in_force
  auras_eq := h.auras_eq
  silent := h.silent
  stays hkept hother := by
    obtain ⟨k, hk, hlistener, hon⟩ := h.stays hkept hother
    exact ⟨k, hk, hlistener, hon.binding_eq, hon.target_eq, hon.event_eq, hon.surface_eq⟩
  list_eq := h.list_eq
  others_eq := h.others_eq
  contains_eq := h.contains_eq
  level_eq := h.level_eq

end Terminated

/-- Self-termination is exact. At every moment of a game, an occurrence to which only the endings of
registered player auras are subscribed, and which ends well, ends exactly those auras whose
condition accepts it for their owner. They lose their subscriptions, their owners lose their shares,
and all else stays. It is as if these auras had been removed one after another in the order of their
subscriptions. -/
theorem endings_exact {settings : Settings} {host : σ} {game : Game σ}
    (hnew : Game.new settings host = .ok game) {program : Program σ} {c : Config σ}
    (hreached : Stirred ⟨.run program, [], game⟩ c) {surface : EntityId} {event : String}
    {args : Payload}
    (hendings : ∀ entry ∈ listenersAt c.game.board surface event,
      ∃ aura, KeptAt c.game.board (.aura aura) surface event entry.1 entry.2)
    {game' : Game σ} (hrun : Game.fire surface event args c.game = .ok () game') :
    ∃ ids b', ids = ended c.game.board args (listenersAt c.game.board surface event) ∧
      Board.removeAuras ids c.game.board = .ok () b' ∧
      game' = { c.game with board := { b' with spent := game'.board.spent } } ∧
      Terminated c.game.board game'.board surface event args ids := by
  have hunspent := endingsUnspent_of_stirred hnew hreached
  have hfit := hunspent.toKeepersFit
  have hends : EndingsOnly c.game.board c.game.board.spent surface event
      (listenersAt c.game.board surface event) := by
    refine ⟨hendings, List.Sublist.refl _, fun entry hentry => ?_⟩
    obtain ⟨aura, k, hk, -, hon⟩ := hendings entry hentry
    exact hunspent.unspent hk hon.binding_eq
  obtain ⟨b', hremoves, hlapsed, hgame⟩ := fire_endings hfit hends hrun
  refine ⟨_, b', rfl, hremoves, hgame, ?_⟩
  rw [hgame]
  exact (hlapsed.terminated hfit hends).of_spent _

/-- Attack for a hero until a turn ends. -/
def courage (condition : Option Condition) : Aura :=
  .player {
    change := .attack .one
    ending := { name := Occurrence.turnEnded, scope := .player, condition } }

/-- A hero has two auras until a turn ends. The second asks that the turn be that of a minion. -/
def heralds : Program Unit :=
  .perform (.addAura ⟨0⟩ ⟨0⟩ (courage none)) fun _ =>
    .perform (.addAura ⟨0⟩ ⟨0⟩ (courage (some .isMinion))) fun _ => .finish (.ok ())

/-- When the turn of the hero ends, only the first aura does. -/
theorem heralds_endings_exact :
    ∃ (game : Game Unit) (c : Config Unit) (game' : Game Unit),
      Game.new Settings.standard () = .ok game ∧ Stirred ⟨.run heralds, [], game⟩ c ∧
      Game.fire ⟨0⟩ Occurrence.turnEnded { focus := some ⟨0⟩ } c.game = .ok () game' ∧
      Terminated c.game.board game'.board ⟨0⟩ Occurrence.turnEnded { focus := some ⟨0⟩ } [⟨0⟩] := by
  obtain ⟨game, hnew⟩ : ∃ game, Game.new Settings.standard () = .ok game := ⟨_, rfl⟩
  obtain ⟨c, hc⟩ : ∃ c, (step ⟨.run heralds, [], game⟩).bind step = some c := by
    cases hnew
    exact ⟨_, rfl⟩
  obtain ⟨c₁, hfirst, hsecond⟩ := Option.bind_eq_some_iff.mp hc
  have hreached : Stirred ⟨.run heralds, [], game⟩ c :=
    (Relation.ReflTransGen.single (stirs_of_step hfirst)).tail (stirs_of_step hsecond)
  have hendings : ∀ entry ∈ listenersAt c.game.board ⟨0⟩ Occurrence.turnEnded,
      ∃ aura, KeptAt c.game.board (.aura aura) ⟨0⟩ Occurrence.turnEnded entry.1 entry.2 := by
    cases hnew
    cases hfirst
    cases hsecond
    intro entry hentry
    rcases List.mem_cons.mp hentry with rfl | hentry
    · exact ⟨⟨0⟩, _, rfl, rfl, rfl, rfl, rfl, rfl⟩
    · obtain rfl := List.mem_singleton.mp hentry
      exact ⟨⟨1⟩, _, rfl, rfl, rfl, rfl, rfl, rfl⟩
  obtain ⟨game', hrun⟩ : ∃ game',
      Game.fire ⟨0⟩ Occurrence.turnEnded { focus := some ⟨0⟩ } c.game = .ok () game' := by
    cases hnew
    cases hfirst
    cases hsecond
    exact ⟨_, rfl⟩
  obtain ⟨ids, b', hids, -, -, hterminated⟩ := endings_exact hnew hreached hendings hrun
  refine ⟨game, c, game', hnew, hreached, hrun, ?_⟩
  have hone : ids = [⟨0⟩] := by
    rw [hids]
    cases hnew
    cases hfirst
    cases hsecond
    decide +kernel
  rwa [← hone]

end CardEffects.Proofs
