import CardEffects.Proofs.Tables
import CardEffects.Subscriptions
import Mathlib.Algebra.BigOperators.Group.Finset.Basic
import Mathlib.Data.List.Induction

/-!
# The log of subscriptions

Subscriptions are kept in lists, one for each occurrence that has any. What the lists show at any
time is what one log shows, in which every subscription is entered behind all that were made before
it, and from which a release strikes the oldest entry that is left of its occurrence and number.
-/

namespace CardEffects.Proofs

variable {α : Type}

/-- A subscription to an occurrence. The number need not be its own. -/
structure Subscription (α : Type) where
  event : String
  listener : ListenerId
  body : α

/-- A request to make a subscription, or to release one. -/
inductive Request (α : Type) where
  | add (subscription : Subscription α)
  | remove (event : String) (listener : ListenerId)

def Request.event : Request α → String
  | .add subscription => subscription.event
  | .remove event _ => event

/-- Whether a subscription is to an occurrence and has a number. -/
def Subscription.Is (subscription : Subscription α) (event : String) (listener : ListenerId) :
    Prop :=
  subscription.event = event ∧ subscription.listener = listener

instance (subscription : Subscription α) (event : String) (listener : ListenerId) :
    Decidable (subscription.Is event listener) :=
  inferInstanceAs (Decidable (_ ∧ _))

/-- The subscriptions after a request. A release that finds nothing leaves them as they were. -/
def serve (subs : Subscriptions α) : Request α → Subscriptions α
  | .add subscription =>
    subs.add subscription.event subscription.listener subscription.body
  | .remove event listener => (subs.remove? event listener).getD subs

def served (requests : List (Request α)) : Subscriptions α :=
  requests.foldl serve { }

/-- The log after a request. -/
def logRequest (log : List (Subscription α)) : Request α → List (Subscription α)
  | .add subscription => log ++ [subscription]
  | .remove event listener => log.eraseP (·.Is event listener)

def logged (requests : List (Request α)) : List (Subscription α) :=
  requests.foldl logRequest []

/-- The entries of a log for an occurrence, oldest first, as they are listed for it. -/
def loggedFor (log : List (Subscription α)) (event : String) : List (ListenerId × α) :=
  (log.filter (·.event = event)).map fun subscription =>
    (subscription.listener, subscription.body)

/-- Whether each occurrence is listed once at most, and only with subscriptions. -/
structure Tidy (subs : Subscriptions α) : Prop where
  once : (Table.keys subs.lists).Nodup
  filled : ∀ entry ∈ subs.lists, entry.2 ≠ []

/-- Whether subscriptions show what a log shows, and list the occurrences in the log only. -/
structure FollowsLog (subs : Subscriptions α) (log : List (Subscription α)) : Prop
    extends Tidy subs where
  listFor_eq : ∀ event, subs.listFor event = loggedFor log event
  has_iff : ∀ event listener,
    subs.has event listener = true ↔ ∃ subscription ∈ log, subscription.Is event listener
  removes_iff : ∀ event listener,
    (subs.remove? event listener).isSome = true ↔
      ∃ subscription ∈ log, subscription.Is event listener
  count_eq : ∀ event, subs.count event = log.countP (·.event = event)
  total_eq : subs.total = log.length
  total_eq_sum : subs.total = ∑ event ∈ (Table.keys subs.lists).toFinset, subs.count event
  mem_keys_iff : ∀ event,
    event ∈ Table.keys subs.lists ↔ ∃ subscription ∈ log, subscription.event = event

/-! ### Entries of a log -/

section Log

variable (log : List (Subscription α))

lemma loggedFor_append (subscription : Subscription α) (event : String) :
    loggedFor (log ++ [subscription]) event =
      loggedFor log event ++ if subscription.event = event
        then [(subscription.listener, subscription.body)] else [] := by
  unfold loggedFor
  by_cases h : subscription.event = event <;> simp [h]

lemma loggedFor_strike (event : String) (listener : ListenerId) :
    loggedFor (log.eraseP (·.Is event listener)) event =
      (loggedFor log event).eraseP (·.1 = listener) := by
  have hkind : ∀ subscription : Subscription α, decide (subscription.Is event listener) =
      (decide (subscription.listener = listener) && decide (subscription.event = event)) := by
    intro subscription
    rw [Bool.eq_iff_iff, decide_eq_true_iff, Bool.and_eq_true_iff, and_comm]
    simp [Subscription.Is]
  unfold loggedFor
  rw [List.eraseP_map, List.eraseP_filter, funext hkind]
  rfl

lemma loggedFor_strike_of_ne {event event' : String} (h : event ≠ event')
    (listener : ListenerId) :
    loggedFor (log.eraseP (·.Is event listener)) event' = loggedFor log event' := by
  rcases List.exists_or_eq_self_of_eraseP (·.Is event listener) log with
    hsame | ⟨struck, before, after, -, hstruck, hlog, herase⟩
  · rw [hsame]
  · -- The entry that is struck is of the other occurrence.
    have hother : struck.event ≠ event' := by
      rw [decide_eq_true_eq] at hstruck
      exact hstruck.1 ▸ h
    unfold loggedFor
    rw [herase, hlog, List.filter_append, List.filter_append,
      List.filter_cons_of_neg (by simpa using hother)]

lemma any_loggedFor {event : String} {listener : ListenerId} :
    (loggedFor log event).any (·.1 = listener) = true ↔
      ∃ subscription ∈ log, subscription.Is event listener := by
  simp [loggedFor, Subscription.Is]

lemma length_loggedFor (event : String) :
    (loggedFor log event).length = log.countP (·.event = event) := by
  rw [loggedFor, List.length_map, List.countP_eq_length_filter]

lemma loggedFor_ne_nil_iff {event : String} :
    loggedFor log event ≠ [] ↔ ∃ subscription ∈ log, subscription.event = event := by
  simp [loggedFor]

lemma length_eq_sum_countP :
    log.length = ∑ event ∈ (log.map (·.event)).toFinset, log.countP (·.event = event) := by
  have hcount : ∀ event, (log.map (·.event)).count event = log.countP (·.event = event) := by
    intro event
    rw [List.count, List.countP_map]
    rfl
  rw [← List.length_map (·.event), ← List.sum_toFinset_count_eq_length]
  exact Finset.sum_congr rfl fun event _ => hcount event

end Log

/-! ### Requests -/

section Requests

variable (subs : Subscriptions α)

lemma serve_add (subscription : Subscription α) :
    serve subs (.add subscription) =
      subs.add subscription.event subscription.listener subscription.body := rfl

lemma serve_remove (event : String) (listener : ListenerId) :
    serve subs (.remove event listener) =
      if subs.has event listener then
        subs.withList event ((subs.listFor event).eraseP (·.1 = listener))
      else subs := by
  change (subs.remove? event listener).getD subs = _
  unfold Subscriptions.remove?
  split <;> rfl

lemma listFor_serve_remove (event event' : String) (listener : ListenerId) :
    (serve subs (.remove event listener)).listFor event' =
      if event = event' then (subs.listFor event').eraseP (·.1 = listener)
      else subs.listFor event' := by
  rw [serve_remove]
  split
  · rw [Subscriptions.listFor_withList]
    by_cases he : event = event'
    · rw [if_pos he, if_pos he, he]
    · rw [if_neg he, if_neg he]
  · next hhas =>
    -- Striking what is not there changes nothing either.
    have hnone : (subs.listFor event).eraseP (·.1 = listener) = subs.listFor event := by
      apply List.eraseP_of_forall_not
      intro entry hentry hlistener
      exact hhas (List.any_eq_true.mpr ⟨entry, hentry, hlistener⟩)
    by_cases he : event = event'
    · rw [if_pos he, ← he, hnone]
    · rw [if_neg he]

lemma listFor_serve_of_ne {request : Request α} {event : String} (h : request.event ≠ event) :
    (serve subs request).listFor event = subs.listFor event := by
  cases request with
  | add subscription =>
    have hne : subscription.event ≠ event := h
    rw [serve_add, Subscriptions.listFor_add, if_neg hne, List.append_nil]
  | remove event' listener =>
    have hne : event' ≠ event := h
    rw [listFor_serve_remove, if_neg hne]

/-- A request does to the lists what it does to the log. -/
lemma listFor_serve {log : List (Subscription α)}
    (h : ∀ event, subs.listFor event = loggedFor log event) (request : Request α)
    (event : String) :
    (serve subs request).listFor event = loggedFor (logRequest log request) event := by
  cases request with
  | add subscription =>
    rw [serve_add, Subscriptions.listFor_add, h, logRequest, loggedFor_append]
  | remove event' listener =>
    rw [listFor_serve_remove, h, logRequest]
    by_cases he : event' = event
    · rw [if_pos he, he, loggedFor_strike]
    · rw [if_neg he, loggedFor_strike_of_ne log he]

end Requests

/-! ### Lists of subscriptions -/

section Lists

variable {subs : Subscriptions α}

lemma Tidy.withList (h : Tidy subs) (event : String) (list : List (ListenerId × α)) :
    Tidy (subs.withList event list) := by
  unfold Subscriptions.withList
  split
  · exact ⟨nodup_keys_erase h.once event, fun entry hentry =>
      h.filled entry (List.mem_filter.mp hentry).1⟩
  · next hlist =>
    refine ⟨nodup_keys_insert h.once event list, fun entry hentry => ?_⟩
    rcases mem_insert_cases hentry with rfl | hold
    · exact fun hnil => hlist (List.isEmpty_iff.mpr hnil)
    · exact h.filled entry hold

lemma Tidy.serve (h : Tidy subs) (request : Request α) : Tidy (serve subs request) := by
  cases request with
  | add subscription => exact h.withList _ _
  | remove event listener =>
    rw [serve_remove]
    split
    · exact h.withList _ _
    · exact h

lemma Tidy.listFor_eq (h : Tidy subs) {event : String} {list : List (ListenerId × α)}
    (hentry : (event, list) ∈ subs.lists) : subs.listFor event = list := by
  unfold Subscriptions.listFor
  rw [get?_of_mem h.once hentry, Option.getD_some]

lemma Tidy.mem_keys_iff (h : Tidy subs) {event : String} :
    event ∈ Table.keys subs.lists ↔ subs.listFor event ≠ [] := by
  constructor
  · intro hmem
    obtain ⟨⟨_, list⟩, hentry, rfl⟩ := List.mem_map.mp hmem
    rw [h.listFor_eq hentry]
    exact h.filled _ hentry
  · intro hlist
    by_contra hmem
    rw [← get?_eq_none_of_not_mem] at hmem
    apply hlist
    unfold Subscriptions.listFor
    rw [hmem, Option.getD_none]

lemma Tidy.total_eq_sum (h : Tidy subs) :
    subs.total = ∑ event ∈ (Table.keys subs.lists).toFinset, subs.count event := by
  have hlengths : subs.total = (subs.lists.map fun entry => entry.2.length).sum := by
    rw [List.sum_eq_foldr, List.foldr_map]
    rfl
  rw [hlengths, List.sum_toFinset _ h.once, Table.keys, List.map_map]
  refine congrArg List.sum (List.map_congr_left fun entry hentry => ?_)
  exact congrArg List.length (h.listFor_eq hentry).symm

lemma Tidy.followsLog (h : Tidy subs) {log : List (Subscription α)}
    (hlists : ∀ event, subs.listFor event = loggedFor log event) : FollowsLog subs log := by
  have hhas : ∀ event listener, subs.has event listener = true ↔
      ∃ subscription ∈ log, subscription.Is event listener := by
    intro event listener
    rw [Subscriptions.has, hlists, any_loggedFor]
  have hcount : ∀ event, subs.count event = log.countP (·.event = event) := by
    intro event
    rw [Subscriptions.count, hlists, length_loggedFor]
  have hkeys : ∀ event, event ∈ Table.keys subs.lists ↔
      ∃ subscription ∈ log, subscription.event = event := by
    intro event
    rw [h.mem_keys_iff, hlists, loggedFor_ne_nil_iff]
  have hevents : (Table.keys subs.lists).toFinset = (log.map (·.event)).toFinset := by
    ext event
    rw [List.mem_toFinset, List.mem_toFinset, hkeys, List.mem_map]
  refine ⟨h, hlists, hhas, fun event listener => ?_, hcount, ?_, h.total_eq_sum, hkeys⟩
  · rw [Subscriptions.isSome_remove?, hhas]
  · rw [h.total_eq_sum, length_eq_sum_countP, hevents]
    exact Finset.sum_congr rfl fun event _ => hcount event

end Lists

/-! ### Runs of requests -/

lemma served_concat (requests : List (Request α)) (request : Request α) :
    served (requests ++ [request]) = serve (served requests) request :=
  List.foldl_concat ..

lemma logged_concat (requests : List (Request α)) (request : Request α) :
    logged (requests ++ [request]) = logRequest (logged requests) request :=
  List.foldl_concat ..

lemma tidy_served (requests : List (Request α)) : Tidy (served requests) := by
  induction requests using List.reverseRecOn with
  | nil => exact ⟨List.nodup_nil, fun entry hentry => absurd hentry List.not_mem_nil⟩
  | append_singleton requests request ih =>
    rw [served_concat]
    exact ih.serve request

lemma listFor_served (requests : List (Request α)) (event : String) :
    (served requests).listFor event = loggedFor (logged requests) event := by
  induction requests using List.reverseRecOn generalizing event with
  | nil => rfl
  | append_singleton requests request ih =>
    rw [served_concat, logged_concat]
    exact listFor_serve _ ih request event

/-- After any run of requests, with numbers that may come again under one occurrence or several, the
subscriptions show what the log of the run shows: the list of each occurrence, which numbers it has
and so which releases find something, how many there are to it and in all. An occurrence is listed
once if it is in the log and not at all otherwise, never with an empty list, and a request about one
occurrence leaves the lists of the others as they are. -/
theorem subscriptions_follow_log (requests : List (Request α)) :
    FollowsLog (served requests) (logged requests) ∧
      ∀ request event, request.event ≠ event →
        (served (requests ++ [request])).listFor event = (served requests).listFor event := by
  refine ⟨(tidy_served requests).followsLog (listFor_served requests), ?_⟩
  intro request event hevent
  rw [served_concat]
  exact listFor_serve_of_ne _ hevent

/-- Requests in which one number is used three times, twice for one occurrence. -/
def echoes : List (Request String) :=
  [.add ⟨"damaged", ⟨1⟩, "first"⟩, .add ⟨"damaged", ⟨2⟩, "second"⟩,
    .add ⟨"turn_ended", ⟨1⟩, "third"⟩, .add ⟨"damaged", ⟨1⟩, "fourth"⟩, .remove "damaged" ⟨1⟩]

/-- The older of those two is released, and the third is still there when the other is. -/
theorem echoes_follow_log :
    Request.event (.remove "damaged" ⟨1⟩ : Request String) ≠ "turn_ended" ∧
      (served echoes).listFor "damaged" = [(⟨2⟩, "second"), (⟨1⟩, "fourth")] ∧
      (served echoes).total = 3 ∧
      (served (echoes ++ [.remove "damaged" ⟨1⟩])).listFor "turn_ended" = [(⟨1⟩, "third")] := by
  obtain ⟨hlog, hothers⟩ := subscriptions_follow_log echoes
  have hne : Request.event (.remove "damaged" ⟨1⟩ : Request String) ≠ "turn_ended" := by decide
  refine ⟨hne, ?_, ?_, ?_⟩
  · rw [hlog.listFor_eq]
    rfl
  · rw [hlog.total_eq]
    rfl
  · rw [hothers _ _ hne, hlog.listFor_eq]
    rfl

end CardEffects.Proofs
