import CardEffects.Proofs.ActOutcomes
import CardEffects.Proofs.Chronicles

/-!
# Orphaned effects

Detaching takes all effects from their owner before it releases their subscriptions, and the first
subscription that is not in force any more ends it. The effects behind that one are cut off: they
are attached to nobody, but they go on listening. No other effect ever comes to this.
-/

namespace CardEffects.Proofs

/-- Whether an effect that is attached to an entity has made the subscription with a number. -/
def AttachedTo (b : Board) (owner : EntityId) (id : ListenerId) : Prop :=
  ∃ effect ∈ effectsOf b owner, number? effect = some id

/-- Whether an act attaches an effect, whose subscription gets a number. -/
def Attaches (id : ListenerId) (b : Board) (act : Act) : Prop :=
  ∃ owner effect b', act = .attach owner effect ∧ Board.attachEffect owner effect b = .ok () b' ∧
    id = ⟨b.nextListener⟩

/-- Whether an act detaches effects and an effect with a number is behind the first one that is not
heard. -/
def CutsOff (id : ListenerId) (b : Board) (act : Act) : Prop :=
  ∃ owner before silent cut effect, act = .detach owner ∧
    Splits b (effectsOf b owner) before silent cut ∧ effect ∈ cut ∧ number? effect = some id

/-! ### Numbers and who keeps them -/

lemma attachedTo_iff {b : Board} {owner : EntityId} {id : ListenerId} :
    AttachedTo b owner id ↔ ∃ index k binding, keeping? b (.effect owner index) = some k ∧
      k.binding = some binding ∧ binding.listener = id := by
  constructor
  · rintro ⟨effect, hmem, hid⟩
    obtain ⟨index, hget⟩ := List.mem_iff_getElem?.mp hmem
    obtain ⟨⟨holder, binding⟩, hactive, hlistener⟩ := Option.map_eq_some_iff.mp hid
    exact ⟨index, effectKeeping owner effect, binding, by simp [keeping?, hget],
      by simp [effectKeeping, hactive], hlistener⟩
  · rintro ⟨index, k, binding, hk, hbinding, rfl⟩
    obtain ⟨effect, hget, rfl⟩ := Option.map_eq_some_iff.mp hk
    obtain ⟨⟨holder, binding'⟩, hactive, rfl⟩ := Option.map_eq_some_iff.mp hbinding
    exact ⟨effect, List.mem_of_getElem? hget, by simp [number?, hactive]⟩

lemma AttachedTo.lt_next {b : Board} (h : KeepersFit b) {owner : EntityId} {id : ListenerId}
    (hattached : AttachedTo b owner id) : id.raw < b.nextListener := by
  obtain ⟨index, k, binding, hk, hbinding, rfl⟩ := attachedTo_iff.mp hattached
  obtain ⟨binding', hon, hlt⟩ := h.kept hk
  obtain rfl : binding' = binding := Option.some.inj (hon.binding_eq.symm.trans hbinding)
  exact hlt

lemma Splits.cut_eq {b : Board} {effects before before' : List Effect} {silent silent' : Effect}
    {cut cut' : List Effect} (h : Splits b effects before silent cut)
    (h' : Splits b effects before' silent' cut') : cut = cut' := by
  obtain ⟨hsplit, hbefore, hsilent⟩ := h
  obtain ⟨hsplit', hbefore', hsilent'⟩ := h'
  rw [hsplit] at hsplit'
  clear hsplit
  induction before generalizing before' with
  | nil =>
    cases before' with
    | nil => exact (List.cons.inj hsplit').2
    | cons effect before' =>
      exact absurd (hbefore' effect (by simp)) ((List.cons.inj hsplit').1 ▸ hsilent)
  | cons effect before ih =>
    cases before' with
    | nil => exact absurd (hbefore effect (by simp)) ((List.cons.inj hsplit').1 ▸ hsilent')
    | cons effect' before' =>
      exact ih (fun e he => hbefore e (by simp [he])) (List.cons.inj hsplit').2
        fun e he => hbefore' e (by simp [he])

/-! ### What a failing detachment leaves behind -/

/-- Whether an effect is behind the first effect of an owner that is not heard. -/
def BehindSilent (b : Board) (owner : EntityId) (effect : Effect) : Prop :=
  ∃ before silent cut, Splits b (effectsOf b owner) before silent cut ∧ effect ∈ cut

/-- What a failure costs an owner: all effects, of which exactly those behind the first one that is
not heard go on listening. -/
structure Lost (b b' : Board) (owner : EntityId) : Prop where
  effects_eq : effectsOf b' owner = []
  heard_iff : ∀ effect ∈ effectsOf b owner,
    Heard b' effect ↔ Heard b effect ∧ BehindSilent b owner effect

/-- Of the effects before the first one that is not heard the subscriptions are released, and those
behind it are left alone. -/
lemma heard_after_detach {b b' : Board} (h : KeepersFit b) {owner : EntityId}
    {before : List Effect} {silent : Effect} {cut : List Effect}
    (hsplits : Splits b (effectsOf b owner) before silent cut)
    (hfreed : Freed b b' (before.filterMap number?)) {effect : Effect}
    (hmem : effect ∈ effectsOf b owner) :
    Heard b' effect ↔ Heard b effect ∧ BehindSilent b owner effect := by
  have hsame : BehindSilent b owner effect ↔ effect ∈ cut := by
    constructor
    · rintro ⟨before', silent', cut', hsplits', hcut⟩
      rwa [hsplits.cut_eq hsplits']
    · exact fun hcut => ⟨before, silent, cut, hsplits, hcut⟩
  have hweaken : Heard b' effect → Heard b effect := by
    rintro ⟨holder, binding, hactive, hbound⟩
    obtain ⟨listener, hlisten⟩ := (isBound_iff _ _ _ _).mp hbound
    exact ⟨holder, binding, hactive,
      (isBound_iff _ _ _ _).mpr ⟨listener, (hfreed.mem_iff.mp hlisten).1⟩⟩
  have hnodup := h.numbers_nodup owner
  obtain ⟨hsplit, hbefore, hsilent⟩ := hsplits
  rw [hsame]
  rw [hsplit] at hmem hnodup
  rcases List.mem_append.mp hmem with hfirst | hrest
  · -- An effect before the silent one has been released.
    refine iff_of_false ?_ ?_
    · rintro hheard
      obtain ⟨id, hid, hforce⟩ := hheard.inForce
      exact hfreed.not_inForce (List.mem_filterMap.mpr ⟨effect, hfirst, hid⟩) hforce
    · rintro ⟨-, hcut⟩
      rw [List.map_append, List.nodup_append] at hnodup
      exact hnodup.2.2 _ (List.mem_map_of_mem hfirst) _ (List.mem_map_of_mem (by simp [hcut])) rfl
  rcases List.mem_cons.mp hrest with rfl | hcut
  · exact iff_of_false (fun hheard => hsilent (hweaken hheard)) fun hboth => hsilent hboth.1
  · have hiff : Heard b' effect ↔ Heard b effect := by
      refine hfreed.heard_iff fun id hid hgone => ?_
      obtain ⟨other, hother, hid'⟩ := List.mem_filterMap.mp hgone
      rw [List.map_append, List.nodup_append] at hnodup
      exact hnodup.2.2 _ (List.mem_map_of_mem hother) _
        (List.mem_map_of_mem (by simp [hcut])) (hid'.trans hid.symm)
    rw [hiff]
    exact ⟨fun hheard => ⟨hheard, hcut⟩, And.left⟩

lemma detach_error {b b' : Board} (h : KeepersFit b) {owner : EntityId} {fault : Fault}
    (hrun : Board.detachEffects owner b = .error fault b') : Lost b b' owner := by
  have hnone := effectsOf_detach b owner
  rw [leftBy_of_error hrun] at hnone
  refine ⟨hnone, fun effect hmem => ?_⟩
  rcases detachEffects_cases h owner with
    ⟨hout, -⟩ | ⟨-, -, count, b₁, hok, -⟩ |
    ⟨-, before, silent, cut, hsplits, fault', b₁, herror, hfreed⟩
  · rw [inPlay_of_mem_effectsOf hmem] at hout
    cases hout
  · rw [hok] at hrun
    cases hrun
  · rw [herror] at hrun
    cases hrun
    exact heard_after_detach h hsplits hfreed hmem

lemma removeMinion_error {b b' : Board} (h : KeepersFit b) {id : EntityId} {fault : Fault}
    (hrun : Board.removeMinion id b = .error fault b') :
    b.isMinion id = false ∧ b' = b ∨ Lost b b' id := by
  rw [removeMinion_run] at hrun
  by_cases hminion : b.isMinion id = false
  · rw [if_pos hminion] at hrun
    exact .inl ⟨hminion, (EStateM.Result.error.inj hrun).2.symm⟩
  rw [if_neg hminion] at hrun
  right
  have hnone := effectsOf_detach b id
  cases hdetach : Board.detachEffects id b with
  | error fault' b₁ =>
    simp only [hdetach, EStateM.Result.error.injEq] at hrun
    obtain ⟨-, rfl⟩ := hrun
    exact detach_error h hdetach
  | ok count b₁ =>
    rw [leftBy_of_ok hdetach] at hnone
    have hfit : KeepersFit b₁ := by
      have hact := h.act (h.outcome (.detach id))
      rwa [Act.run, leftBy_discard, leftBy_of_ok hdetach] at hact
    have hkept := effectsOf_removeAuras (b₁.aurasOwnedBy id) b₁
    have hfewer := fewer_removeAuras (b₁.aurasOwnedBy id) hfit.wellFormed
    -- Whatever it is that fails, the board is the one that the removal of auras has left.
    have hboard : b' = leftBy (Board.removeAuras (b₁.aurasOwnedBy id)) b₁ := by
      cases hremove : Board.removeAuras (b₁.aurasOwnedBy id) b₁ with
      | error fault' b₂ =>
        simp only [hdetach, hremove, EStateM.Result.error.injEq] at hrun
        rw [leftBy_of_error hremove, hrun.2]
      | ok _ b₂ =>
        simp only [hdetach, hremove, leavePlay_run] at hrun
        rw [leftBy_of_ok hremove]
        split at hrun
        · exact (EStateM.Result.error.inj hrun).2.symm
        · cases hrun
    subst hboard
    refine ⟨(congrFun hkept id).trans hnone, fun effect hmem => ?_⟩
    obtain ⟨-, hall⟩ := (detach_ok_iff h id).mp ⟨count, b₁, hdetach⟩
    refine iff_of_false ?_ ?_
    · rintro hheard
      obtain ⟨number, hnumber, hforce⟩ := hheard.inForce
      have hfreed := freed_of_heard h id hall
      rw [leftBy_of_ok hdetach] at hfreed
      exact hfreed.not_inForce (List.mem_filterMap.mpr ⟨effect, hmem, hnumber⟩)
        (hforce.of_fewer hfewer)
    · rintro ⟨-, before, silent, cut, ⟨hsplit, -, hsilent⟩, -⟩
      refine hsilent (hall silent ?_)
      rw [hsplit]
      simp

/-! ### The fate of a number -/

lemma inForce_of_outcome {b b' : Board} (h : KeepersFit b) {act : Act} (hout : Outcome b act b')
    {id : ListenerId} (hforce : InForce b' id) : InForce b id ∨ id = ⟨b.nextListener⟩ := by
  rcases listening_of_outcome h hout with hfewer | ⟨_, _, _, hgained⟩
  · exact .inl (hforce.of_fewer hfewer)
  · obtain ⟨surface, event, listener, hmem⟩ := hforce
    rcases hgained.mem_cases hmem with hold | ⟨-, -, hid, -⟩
    · exact .inl ⟨surface, event, listener, hold⟩
    · exact .inr hid

lemma Attaches.lt_next {b b' : Board} {act : Act} (hout : Outcome b act b') {id : ListenerId}
    (h : Attaches id b act) : id.raw < b'.nextListener := by
  obtain ⟨owner, effect, b₁, rfl, hrun, rfl⟩ := h
  cases hout with
  | failed hfailed hkeeps =>
    rw [Act.run, hrun] at hfailed
    cases hfailed
  | attached hok hattached =>
    rw [hattached.gained.next_eq]
    exact Nat.lt_succ_self _
  | idle hplain hidle => exact hplain.elim

lemma attached_of_same {b b' : Board} {act : Act} (hdetach : ∀ owner, act ≠ .detach owner)
    {id : ListenerId} (hattach : ¬Attaches id b act) (heffects : effectsOf b' = effectsOf b) :
    (∃ owner, AttachedTo b' owner id) ↔
      (∃ owner, AttachedTo b owner id ∧ act ≠ .detach owner) ∨ Attaches id b act := by
  have hsame : ∀ owner, AttachedTo b' owner id ↔ AttachedTo b owner id := by
    intro owner
    unfold AttachedTo
    rw [heffects]
  simp [hsame, hdetach, hattach]

/-- After an act an effect has made the subscription with a number if it had done so before and was
not detached, or if the act has attached it. -/
lemma attached_of_outcome {b b' : Board} {act : Act} (hout : Outcome b act b') {id : ListenerId} :
    (∃ owner, AttachedTo b' owner id) ↔
      (∃ owner, AttachedTo b owner id ∧ act ≠ .detach owner) ∨ Attaches id b act := by
  cases hout with
  | failed hrun hkeeps =>
    refine attached_of_same hkeeps ?_ rfl
    rintro ⟨owner, effect, b₁, rfl, hok, -⟩
    rw [Act.run, hok] at hrun
    cases hrun
  | idle hplain hidle =>
    refine attached_of_same ?_ ?_ (congrArg Prod.fst hidle.upkeep_eq)
    · rintro owner rfl
      exact hplain
    · rintro ⟨owner, effect, b₁, rfl, -⟩
      exact hplain
  | left hleft =>
    exact attached_of_same (by simp) (by simp [Attaches]) (congrArg Prod.fst hleft.upkeep_eq)
  | listened hrun hin hframe hgained hupkeep =>
    exact attached_of_same (by simp) (by simp [Attaches]) (congrArg Prod.fst hupkeep)
  | released hrun hbound hframe hfreed hupkeep =>
    exact attached_of_same (by simp) (by simp [Attaches]) (congrArg Prod.fst hupkeep)
  | added hadded =>
    exact attached_of_same (by simp) (by simp [Attaches]) (congrArg Prod.fst hadded.upkeep_eq)
  | removed hleft hget =>
    subst hleft
    exact attached_of_same (by simp) (by simp [Attaches])
      (congrArg Prod.fst (upkeep_removeAura _ b))
  | @detached owner b' hleft =>
    subst hleft
    have hattach : ¬Attaches id b (.detach owner) := by simp [Attaches]
    simp only [attachedTo_iff, keeping?_detached, hattach, or_false]
    constructor
    · rintro ⟨owner', index, k, binding, ⟨hk, hother⟩, hbinding⟩
      refine ⟨owner', ⟨index, k, binding, hk, hbinding⟩, fun hsame => hother index ?_⟩
      rw [Act.detach.inj hsame]
    · rintro ⟨owner', ⟨index, k, binding, hk, hbinding⟩, hother⟩
      refine ⟨owner', index, k, binding, ⟨hk, fun i hsame => hother ?_⟩, hbinding⟩
      rw [(Keeper.effect.inj hsame).1]
  | @attached owner surface effect b' hrun hattached =>
    have hattach : Attaches id b (.attach owner effect) ↔ id = ⟨b.nextListener⟩ := by
      constructor
      · rintro ⟨_, _, _, -, -, rfl⟩
        rfl
      · rintro rfl
        exact ⟨owner, effect, b', rfl, hrun, rfl⟩
    rw [hattach]
    simp only [attachedTo_iff, hattached.keeping]
    constructor
    · rintro ⟨owner', index, k, binding, hold | ⟨-, rfl⟩, hbinding, hid⟩
      · exact .inl ⟨owner', ⟨index, k, binding, hold, hbinding, hid⟩, by simp⟩
      · cases hbinding
        exact .inr hid.symm
    · rintro (⟨owner', ⟨index, k, binding, hold, hbinding⟩, -⟩ | rfl)
      · exact ⟨owner', index, k, binding, .inl hold, hbinding⟩
      · exact ⟨owner, _, _, _, .inr ⟨rfl, rfl⟩, rfl, rfl⟩

lemma cutsOff_of_detached {b b' : Board} (h : KeepersFit b) {owner : EntityId}
    (hleft : leftBy (Board.detachEffects owner) b = b') {id : ListenerId}
    (hattached : AttachedTo b owner id) (hforce : InForce b' id) : CutsOff id b (.detach owner) := by
  obtain ⟨effect, hmem, hid⟩ := hattached
  rcases detachEffects_cases h owner with
    ⟨hout, -⟩ | ⟨-, -, count, b₁, hrun, hfreed⟩ |
    ⟨-, before, silent, cut, hsplits, fault, b₁, hrun, hfreed⟩
  · rw [inPlay_of_mem_effectsOf hmem] at hout
    cases hout
  · rw [leftBy_of_ok hrun] at hleft
    subst hleft
    exact absurd hforce (hfreed.not_inForce (List.mem_filterMap.mpr ⟨effect, hmem, hid⟩))
  · rw [leftBy_of_error hrun] at hleft
    subst hleft
    have hheard := h.heard_of_inForce hmem hid (hforce.of_fewer hfreed.fewer)
    refine ⟨owner, before, silent, cut, effect, rfl, hsplits, ?_, hid⟩
    obtain ⟨hsplit, -, hsilent⟩ := hsplits
    rw [hsplit] at hmem
    rcases List.mem_append.mp hmem with hfirst | hrest
    · exact absurd hforce (hfreed.not_inForce (List.mem_filterMap.mpr ⟨effect, hfirst, hid⟩))
    · rcases List.mem_cons.mp hrest with rfl | hcut
      · exact absurd hheard hsilent
      · exact hcut

lemma CutsOff.attachedTo {b : Board} {act : Act} {id : ListenerId} (h : CutsOff id b act) :
    ∃ owner, act = .detach owner ∧ AttachedTo b owner id := by
  obtain ⟨owner, before, silent, cut, effect, rfl, ⟨hsplit, -, -⟩, hcut, hid⟩ := h
  refine ⟨owner, rfl, effect, ?_, hid⟩
  rw [hsplit]
  simp [hcut]

lemma AttachedTo.owner_eq {b : Board} (h : KeepersFit b) {owner owner' : EntityId}
    {id : ListenerId} (hattached : AttachedTo b owner id) (hattached' : AttachedTo b owner' id) :
    owner = owner' := by
  obtain ⟨index, k, binding, hk, hbinding, rfl⟩ := attachedTo_iff.mp hattached
  obtain ⟨index', k', binding', hk', hbinding', hid⟩ := attachedTo_iff.mp hattached'
  exact (Keeper.effect.inj (h.apart hk hk' hbinding hbinding' hid.symm)).1

/-- What is kept of the numbers of effects: those that were attached or cut off have been given, none
that was cut off is kept by an effect, and all others in force are. -/
structure FatesFit (start : Board) (acts : List Act) : Prop where
  attached_lt : ∀ {id}, Past (Attaches id) start acts → id.raw < (enact start acts).nextListener
  cut_lt : ∀ {id}, Past (CutsOff id) start acts → id.raw < (enact start acts).nextListener
  cut : ∀ {id}, Past (CutsOff id) start acts → ∀ owner, ¬AttachedTo (enact start acts) owner id
  kept : ∀ {id}, Past (Attaches id) start acts → InForce (enact start acts) id →
    (∃ owner, AttachedTo (enact start acts) owner id) ∨ Past (CutsOff id) start acts

lemma fatesFit {start : Board} (h : KeepersFit start) (acts : List Act) : FatesFit start acts := by
  induction acts using List.reverseRecOn with
  | nil =>
    have hnone : ∀ {P : Board → Act → Prop}, ¬Past P start [] := not_past_nil start
    exact ⟨fun hp => absurd hp hnone, fun hp => absurd hp hnone, fun hp => absurd hp hnone,
      fun hp => absurd hp hnone⟩
  | append_singleton acts act ih =>
    have hfit := keepersFit_enact h acts
    have hout := hfit.outcome act
    have hnext := nextListener_le_of_outcome hfit hout
    have hattached := fun id => @attached_of_outcome _ _ _ hout id
    refine ⟨fun {id} hp => ?_, fun {id} hp => ?_, fun {id} hp owner hkept => ?_,
      fun {id} hp hforce => ?_⟩ <;>
      rw [past_concat] at hp <;> rw [enact_concat] at *
    · rcases hp with hpast | hlast
      · exact lt_of_lt_of_le (ih.attached_lt hpast) hnext
      · exact hlast.lt_next hout
    · rcases hp with hpast | hlast
      · exact lt_of_lt_of_le (ih.cut_lt hpast) hnext
      · obtain ⟨owner, -, hbefore⟩ := hlast.attachedTo
        exact lt_of_lt_of_le (hbefore.lt_next hfit) hnext
    · -- Only an attachment makes a keeper, and its number is new.
      rcases (hattached id).mp ⟨owner, hkept⟩ with ⟨owner', hold, hact⟩ | ⟨_, _, _, rfl, -, rfl⟩
      · rcases hp with hpast | hlast
        · exact ih.cut hpast owner' hold
        · obtain ⟨owner'', rfl, hbefore⟩ := hlast.attachedTo
          exact hact (by rw [hold.owner_eq hfit hbefore])
      · rcases hp with hpast | hlast
        · exact lt_irrefl _ (ih.cut_lt hpast)
        · obtain ⟨owner'', hsame, -⟩ := hlast.attachedTo
          cases hsame
    · rw [past_concat]
      rcases hp with hpast | hlast
      · have hbefore : InForce (enact start acts) id := by
          refine (inForce_of_outcome hfit hout hforce).resolve_right ?_
          rintro rfl
          exact lt_irrefl _ (ih.attached_lt hpast)
        rcases ih.kept hpast hbefore with ⟨owner, hold⟩ | hcut
        · by_cases hact : act = .detach owner
          · subst hact
            exact .inr (.inr (cutsOff_of_detached hfit (leftBy_discard _ _).symm hold hforce))
          · exact .inl ((hattached id).mpr (.inl ⟨owner, hold, hact⟩))
        · exact .inr (.inl hcut)
      · exact .inl ((hattached id).mpr (.inr hlast))

/-! ### Runs -/

/-- What detaching has done and will do to effects at a moment. Of the subscriptions that were made by
attaching an effect, those in force that no effect keeps are exactly the ones that were cut off. -/
structure OrphansCutOff (start : Board) (past : List Act) : Prop where
  detach_ok_iff : ∀ owner, (∃ count b', Board.detachEffects owner (enact start past) = .ok count b') ↔
    (enact start past).contains owner = true ∧
      ∀ effect ∈ effectsOf (enact start past) owner, Heard (enact start past) effect
  detach_error : ∀ owner fault b', Board.detachEffects owner (enact start past) = .error fault b' →
    Lost (enact start past) b' owner
  removeMinion_error : ∀ id fault b', Board.removeMinion id (enact start past) = .error fault b' →
    (enact start past).isMinion id = false ∧ b' = enact start past ∨ Lost (enact start past) b' id
  orphan_iff : ∀ id, Past (Attaches id) start past → InForce (enact start past) id →
    ((∀ owner, ¬AttachedTo (enact start past) owner id) ↔ Past (CutsOff id) start past)

/-- At every moment of a run, effects can be detached as long as all of them are heard, and the
effects behind one that is not heard are the only ones that can go on listening while they are
attached to nobody. -/
theorem orphaned_iff_cut_off {σ : Type} {settings : Settings} {host : σ} {game : Game σ}
    (hnew : Game.new settings host = .ok game) (program : Program σ) :
    enact game.board (chronicle program game) = (leftBy (Game.execute program) game).board ∧
      ∀ past, past <+: chronicle program game → OrphansCutOff game.board past := by
  refine ⟨enact_chronicle program game, fun past _ => ?_⟩
  have hfit := keepersFit_enact (keepersFit_start hnew) past
  have hfates := fatesFit (keepersFit_start hnew) past
  refine ⟨detach_ok_iff hfit, fun _ _ _ => detach_error hfit, fun _ _ _ => removeMinion_error hfit,
    fun id hattaches hforce => ⟨fun hnobody => ?_, hfates.cut⟩⟩
  refine (hfates.kept hattaches hforce).resolve_left ?_
  rintro ⟨owner, hattached⟩
  exact hnobody owner hattached

/-- At the end of a turn of its owner, the owner gets stronger. -/
def zeal : Effect where
  event := { name := Occurrence.turnEnded, scope := .player }
  action := .change (.attack .one)
  targeting := .self

/-- Two effects of a hero are detached after the subscription of the first was released by hand. -/
def neglect : Program Unit :=
  .perform (.attachEffect ⟨0⟩ zeal) fun _ =>
    .perform (.attachEffect ⟨0⟩ zeal) fun _ =>
      .perform (.unsubscribe ⟨0⟩ Occurrence.turnEnded ⟨0⟩) fun _ =>
        .perform (.detachEffects ⟨0⟩) fun _ => .finish (.ok ())

theorem neglected_effect_orphaned :
    ∃ game, Game.new Settings.standard () = .ok game ∧
      InForce (leftBy (Game.execute neglect) game).board ⟨1⟩ ∧
      ∀ owner, ¬AttachedTo (leftBy (Game.execute neglect) game).board owner ⟨1⟩ := by
  obtain ⟨game, hnew⟩ : ∃ game, Game.new Settings.standard () = .ok game := ⟨_, rfl⟩
  obtain ⟨hleads, hpast⟩ := orphaned_iff_cut_off hnew neglect
  have horphan := (hpast _ (List.prefix_refl _)).orphan_iff ⟨1⟩
  have hacts : chronicle neglect game = [.attach ⟨0⟩ zeal, .attach ⟨0⟩ zeal,
      .release ⟨0⟩ Occurrence.turnEnded ⟨0⟩, .detach ⟨0⟩] := by
    cases hnew
    rfl
  rw [hleads, hacts] at horphan
  have hforce : InForce (leftBy (Game.execute neglect) game).board ⟨1⟩ := by
    have hbound : (leftBy (Game.execute neglect) game).board.isBound ⟨0⟩ Occurrence.turnEnded
        ⟨1⟩ = true := by
      cases hnew
      decide +kernel
    exact ⟨_, _, (isBound_iff _ _ _ _).mp hbound⟩
  have hattaches : Past (Attaches ⟨1⟩) game.board [.attach ⟨0⟩ zeal, .attach ⟨0⟩ zeal,
      .release ⟨0⟩ Occurrence.turnEnded ⟨0⟩, .detach ⟨0⟩] := by
    cases hnew
    exact ⟨[_], _, [_, _], rfl, ⟨0⟩, zeal, _, rfl, rfl, rfl⟩
  have hcut : Past (CutsOff ⟨1⟩) game.board [.attach ⟨0⟩ zeal, .attach ⟨0⟩ zeal,
      .release ⟨0⟩ Occurrence.turnEnded ⟨0⟩, .detach ⟨0⟩] := by
    cases hnew
    refine ⟨[_, _, _], _, [], rfl, ⟨0⟩, [], _, [_], _, rfl, ⟨rfl, by simp, ?_⟩,
      List.mem_singleton_self _, rfl⟩
    rintro ⟨owner, binding, hactive, hbound⟩
    cases hactive
    revert hbound
    decide +kernel
  exact ⟨game, hnew, hforce, (horphan hattaches hforce).mpr hcut⟩

end CardEffects.Proofs
