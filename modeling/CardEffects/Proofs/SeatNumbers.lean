import CardEffects.Record.Options
import Mathlib.Data.List.Nodup
import Mathlib.Tactic.Lemma

/-!
# Seat numbers

A value per player is listed under the number of its place in 8 bits. Where more than 256 values are
listed, which no table seats but a record may hold, numbers come back and values are listed under
the numbers of others.
-/

namespace CardEffects.Proofs

variable {α : Type} (map : PerPlayer α)

lemma length_toList : map.toList.length = map.count := by
  simp [PerPlayer.toList, PerPlayer.count]

lemma getElem?_toList (i : Nat) :
    map.toList[i]? = map.values[i]?.map fun value => (PlayerId.wrap i, value) := by
  simp [PerPlayer.toList, Function.comp_def]

lemma get?_wrap (i : Nat) : map.get? (.wrap i) = map.values[i % 256]? := rfl

lemma toList_players :
    map.toList.map (·.1) = (List.range map.count).map PlayerId.wrap := by
  apply List.ext_getElem?
  intro i
  rw [List.getElem?_map, getElem?_toList, List.getElem?_map, Option.map_map, PerPlayer.count]
  by_cases hi : i < map.values.length
  · rw [List.getElem?_range hi, List.getElem?_eq_getElem hi]
    rfl
  · have hrange : (List.range map.values.length)[i]? = none := by simpa using hi
    rw [hrange, List.getElem?_eq_none (Nat.le_of_not_lt hi)]
    rfl

lemma nodup_wrap_iff (count : Nat) :
    ((List.range count).map PlayerId.wrap).Nodup ↔ count ≤ 256 := by
  constructor
  · intro hnodup
    by_contra hmany
    have hsame : PlayerId.wrap 0 = PlayerId.wrap 256 := rfl
    have hzero : 0 = 256 := List.inj_on_of_nodup_map hnodup (List.mem_range.mpr (by omega))
      (List.mem_range.mpr (by omega)) hsame
    omega
  · intro hfew
    refine List.Nodup.map_on (fun i hi j hj hsame => ?_) List.nodup_range
    have hmod : i % 256 = j % 256 := congrArg PlayerId.index hsame
    rw [List.mem_range] at hi hj
    omega

lemma get?_of_mem_toList (hfew : map.count ≤ 256) {entry : PlayerId × α}
    (hentry : entry ∈ map.toList) : map.get? entry.1 = some entry.2 := by
  obtain ⟨i, hi⟩ := List.mem_iff_getElem?.mp hentry
  rw [getElem?_toList] at hi
  obtain ⟨value, hvalue, rfl⟩ := Option.map_eq_some_iff.mp hi
  have hlt : i < map.count := (List.getElem?_eq_some_iff.mp hvalue).1
  rw [get?_wrap, Nat.mod_eq_of_lt (by omega), hvalue]

variable {map}

lemma new_eq_ok {count : Nat} {value : PlayerId → α} (h : PerPlayer.new count value = .ok map) :
    1 ≤ count ∧ count ≤ 255 ∧ map.count = count := by
  unfold PerPlayer.new checkPlayerCount at h
  split at h
  · cases h
  · split at h
    · cases h
    · cases h
      have hmod : count % 256 = count := Nat.mod_eq_of_lt (by omega)
      refine ⟨by omega, by omega, ?_⟩
      simp [PerPlayer.count, PlayerId.all, hmod]

lemma mapM_map_eq_some {read : Json → Option α} {write : α → Json} {values : List α}
    (h : ∀ value ∈ values, read (write value) = some value) :
    (values.map write).mapM read = some values := by
  induction values with
  | nil => rfl
  | cons value values ih =>
    rw [List.forall_mem_cons] at h
    simp [h.1, ih h.2]

lemma readWith?_writeWith {read : Json → Option α} {write : α → Json}
    (h : ∀ value ∈ map.values, read (write value) = some value) :
    PerPlayer.readWith? read (map.writeWith write) = some map := by
  have hread := mapM_map_eq_some h
  simp [PerPlayer.writeWith, Json.object, Fields.ofList, Fields.insert, PerPlayer.readWith?,
    Table.get?, hread]

/-- Values per player, whether made for a table or read from a record, are listed once each. The
players they are listed under are different, and each has the value listed under it, as long as
there are no more than 256; beyond that numbers come back, and the value at a place is listed under
the player who has the one 256 places before. Values are made for no more than 255 players, but
values for any number of players come back as they were when they are written and read. -/
theorem listed_apart_iff (map : PerPlayer α) :
    map.toList.length = map.count ∧
    ((map.toList.map (·.1)).Nodup ↔ map.count ≤ 256) ∧
    (map.count ≤ 256 → ∀ entry ∈ map.toList, map.get? entry.1 = some entry.2) ∧
    (∀ i entry, map.toList[i]? = some entry →
      map.values[i]? = some entry.2 ∧ map.get? entry.1 = map.values[i % 256]?) ∧
    (∀ count value, PerPlayer.new count value = .ok map → 1 ≤ map.count ∧ map.count ≤ 255) ∧
    ∀ (read : Json → Option α) (write : α → Json),
      (∀ value ∈ map.values, read (write value) = some value) →
        PerPlayer.readWith? read (map.writeWith write) = some map := by
  refine ⟨length_toList map, ?_, fun hfew entry => get?_of_mem_toList map hfew,
    fun i entry hentry => ?_, fun count value hnew => ?_, fun read write => readWith?_writeWith⟩
  · rw [toList_players, nodup_wrap_iff]
  · rw [getElem?_toList] at hentry
    obtain ⟨value, hvalue, rfl⟩ := Option.map_eq_some_iff.mp hentry
    exact ⟨hvalue, get?_wrap map i⟩
  · obtain ⟨hleast, hmost, hcount⟩ := new_eq_ok hnew
    omega

/-- An amount for each of 257 players. -/
def crowd : PerPlayer Amount :=
  ⟨(List.range 257).map fun n : Nat => Amount.clamp n⟩

/-- It can be read from a record, and the last amount is listed under the first player, who has
another. -/
theorem crowd_not_listed_apart :
    PerPlayer.ofJson? crowd.toJson = some crowd ∧ crowd.toList.length = 257 ∧
      ¬(crowd.toList.map (·.1)).Nodup ∧
      crowd.toList[256]? = some (⟨0⟩, { val := 256 }) ∧ crowd.get? ⟨0⟩ = some .zero := by
  obtain ⟨hlength, hapart, -, hplaces, -, hback⟩ := listed_apart_iff crowd
  have hcount : crowd.count = 257 := (List.length_map _).trans List.length_range
  have hlast : crowd.toList[256]? = some (⟨0⟩, { val := 256 }) := by
    rw [getElem?_toList]
    rfl
  refine ⟨hback _ _ fun amount _ => amount.ofInt?_val, hlength.trans hcount, fun hnodup => ?_,
    hlast, (hplaces 256 _ hlast).2⟩
  have hfew := hapart.mp hnodup
  omega

end CardEffects.Proofs
