import OpenOntology.Graph.FirstCall
import Std.Data.String.ToNat

/-!
# The context cache

The cache in front of the graph tier keeps for a while what an asset resolved to. Nothing runs
in the background: a `Store` that finds the cache over its limit drops the expired entries,
and only those.
-/
namespace OpenOntology.Graph

open Resolution (Time Duration)

def maxGraphCacheEntries : Nat := 4096

structure GraphCacheEntry where
  context : OntologyContext
  expiresAt : Time

structure GraphContextCache where
  ttl : Duration
  entries : Std.ExtTreeMap String GraphCacheEntry

def newGraphContextCache (ttl : Duration) : GraphContextCache := ⟨ttl, ∅⟩

/-- A call on the cache, with the clock as the call reads it: once for the eviction and once
for the entry when it stores. -/
inductive CacheCall where
  | lookup (assetID : String) (now : Time)
  | store (assetID : String) (value : OntologyContext) (evictAt storeAt : Time)

namespace GraphContextCache

section
variable (c : GraphContextCache)

def lookup (assetID : String) (now : Time) : Option OntologyContext :=
  match c.entries[assetID]? with
  | none => none
  | some entry => if entry.expiresAt < now then none else some entry.context

/-- What is left of the entries when room is made for one more. -/
def evicted (now : Time) : Std.ExtTreeMap String GraphCacheEntry :=
  if c.entries.size > maxGraphCacheEntries then
    c.entries.filter fun _ entry => !decide (entry.expiresAt < now)
  else c.entries

def store (assetID : String) (value : OntologyContext) (evictAt storeAt : Time) :
    GraphContextCache :=
  if c.ttl ≤ 0 then c
  else { c with entries := (c.evicted evictAt).insert assetID ⟨value, storeAt + c.ttl⟩ }

def len : Nat := c.entries.size

/-- The cache after a call; a lookup leaves it as it was. -/
def step : CacheCall → GraphContextCache
  | .lookup _ _ => c
  | .store assetID value evictAt storeAt => c.store assetID value evictAt storeAt

end

/-- The cache after the calls, in the order in which they took the lock. -/
def after (ttl : Duration) (calls : List CacheCall) : GraphContextCache :=
  calls.foldl step (newGraphContextCache ttl)

@[simp] theorem after_nil (ttl : Duration) : after ttl [] = newGraphContextCache ttl := rfl

@[simp] theorem after_snoc (ttl : Duration) (calls : List CacheCall) (call : CacheCall) :
    after ttl (calls ++ [call]) = (after ttl calls).step call := by
  unfold after
  rw [List.foldl_append, List.foldl_cons, List.foldl_nil]

theorem entries_step_store {c : GraphContextCache} (positive : 0 < c.ttl) (assetID : String)
    (value : OntologyContext) (evictAt storeAt : Time) :
    (c.step (.store assetID value evictAt storeAt)).entries =
      (c.evicted evictAt).insert assetID ⟨value, storeAt + c.ttl⟩ := by
  show (c.store assetID value evictAt storeAt).entries = _
  unfold store
  rw [if_neg (not_le.mpr positive)]

@[simp] theorem ttl_step (c : GraphContextCache) (call : CacheCall) : (c.step call).ttl = c.ttl := by
  cases call with
  | lookup assetID now => rfl
  | store assetID value evictAt storeAt =>
    show (c.store assetID value evictAt storeAt).ttl = c.ttl
    unfold store
    split <;> rfl

@[simp] theorem ttl_after (ttl : Duration) (calls : List CacheCall) : (after ttl calls).ttl = ttl := by
  induction calls using List.reverseRecOn with
  | nil => rfl
  | append_singleton calls call ih => rw [after_snoc, ttl_step, ih]

/-! ## What a lookup may answer -/

end GraphContextCache

namespace CacheCall

/-- What the call stores for the asset, and when. -/
def storedFor (assetID : String) : CacheCall → Option (OntologyContext × Time)
  | .lookup _ _ => none
  | .store other value _ storeAt => if other = assetID then some (value, storeAt) else none

/-- The asset the call stores for, where the entry may still be alive at `now`. -/
def recentAsset (ttl : Duration) (now : Time) : CacheCall → Option String
  | .lookup _ _ => none
  | .store assetID _ _ storeAt => if now ≤ storeAt + ttl then some assetID else none

/-- When the call makes room. -/
def eviction : CacheCall → Option Time
  | .lookup _ _ => none
  | .store _ _ evictAt _ => some evictAt

end CacheCall

namespace GraphContextCache

/-- The context last stored for the asset, and when. -/
def lastStored (assetID : String) (calls : List CacheCall) : Option (OntologyContext × Time) :=
  calls.reverse.findSome? (CacheCall.storedFor assetID)

/-- What a cache without a limit answers: the context last stored, until its time is over. -/
def fresh (ttl : Duration) (calls : List CacheCall) (assetID : String) (now : Time) :
    Option OntologyContext :=
  match lastStored assetID calls with
  | none => none
  | some (value, storedAt) => if storedAt + ttl < now then none else some value

theorem lastStored_snoc (assetID : String) (calls : List CacheCall) (call : CacheCall) :
    lastStored assetID (calls ++ [call]) =
      (call.storedFor assetID).or (lastStored assetID calls) := by
  unfold lastStored
  rw [List.reverse_append, List.reverse_singleton, List.singleton_append, List.findSome?_cons]
  cases call.storedFor assetID <;> rfl

/-- The entry of an asset is there after room was made, unless its time was over. -/
theorem getElem?_evicted (c : GraphContextCache) (now : Time) (assetID : String) :
    (c.evicted now)[assetID]? = c.entries[assetID]? ∨
      (c.evicted now)[assetID]? = none ∧
        ∃ entry, c.entries[assetID]? = some entry ∧ entry.expiresAt < now := by
  unfold evicted
  split
  · rw [Std.ExtTreeMap.getElem?_filter']
    cases held : c.entries[assetID]? with
    | none => exact Or.inl rfl
    | some entry =>
      by_cases expired : entry.expiresAt < now
      · exact Or.inr ⟨by simp [expired], entry, rfl, expired⟩
      · exact Or.inl (by simp [expired])
  · exact Or.inl rfl

theorem getElem?_step_of_stored {c : GraphContextCache} {call : CacheCall} {assetID : String}
    {value : OntologyContext} {storeAt : Time} (positive : 0 < c.ttl)
    (stored : call.storedFor assetID = some (value, storeAt)) :
    (c.step call).entries[assetID]? = some ⟨value, storeAt + c.ttl⟩ := by
  cases call with
  | lookup asked now => cases stored
  | store other context evictAt storeAt' =>
    unfold CacheCall.storedFor at stored
    obtain ⟨rfl, same⟩ := Option.ite_none_right_eq_some.mp stored
    cases same
    rw [entries_step_store positive, Std.ExtTreeMap.getElem?_insert_self]

/-- A call that stores nothing for the asset leaves its entry, or drops it when its time was
over. -/
theorem getElem?_step_of_other {c : GraphContextCache} {call : CacheCall} {assetID : String}
    (positive : 0 < c.ttl) (other : call.storedFor assetID = none) :
    (c.step call).entries[assetID]? = c.entries[assetID]? ∨
      (c.step call).entries[assetID]? = none ∧ ∃ evictAt, call.eviction = some evictAt ∧
        ∃ entry, c.entries[assetID]? = some entry ∧ entry.expiresAt < evictAt := by
  cases call with
  | lookup asked now => exact Or.inl rfl
  | store stored context evictAt storeAt =>
    have differs : stored ≠ assetID := by
      rintro rfl
      rw [CacheCall.storedFor, if_pos rfl] at other
      cases other
    rw [entries_step_store positive, Std.ExtTreeMap.getElem?_insert, if_neg (by simpa using differs)]
    obtain kept | ⟨dropped, expired⟩ := getElem?_evicted c evictAt assetID
    · exact Or.inl kept
    · exact Or.inr ⟨dropped, evictAt, rfl, expired⟩

/-- What the entry of an asset says about the calls so far: it is what was last stored, and it
is missing only after room was made past its time. -/
def Remembers (ttl : Duration) (calls : List CacheCall) (assetID : String) :
    Option GraphCacheEntry → Prop
  | some entry => ∃ storedAt, lastStored assetID calls = some (entry.context, storedAt) ∧
      entry.expiresAt = storedAt + ttl
  | none => ∀ value storedAt, lastStored assetID calls = some (value, storedAt) →
      ∃ evictAt ∈ calls.filterMap CacheCall.eviction, storedAt + ttl < evictAt

theorem remembers {ttl : Duration} (positive : 0 < ttl) (calls : List CacheCall) (assetID : String) :
    Remembers ttl calls assetID (after ttl calls).entries[assetID]? := by
  have lasting : ∀ calls, 0 < (after ttl calls).ttl := fun calls => by rwa [ttl_after]
  induction calls using List.reverseRecOn with
  | nil =>
    rw [after_nil, newGraphContextCache, Std.ExtTreeMap.getElem?_empty]
    intro value storedAt stored
    cases stored
  | append_singleton calls call ih =>
    have latest := lastStored_snoc assetID calls call
    rw [after_snoc]
    cases stored : call.storedFor assetID with
    | some pair =>
      rw [stored, Option.some_or] at latest
      rw [getElem?_step_of_stored (lasting calls) stored, ttl_after]
      exact ⟨pair.2, latest, rfl⟩
    | none =>
      rw [stored, Option.none_or] at latest
      obtain kept | ⟨dropped, evictAt, made, entry, held, expired⟩ :=
        getElem?_step_of_other (lasting calls) stored
      · rw [kept]
        cases held : (after ttl calls).entries[assetID]? with
        | some entry =>
          rw [held] at ih
          obtain ⟨storedAt, before, expiry⟩ := ih
          exact ⟨storedAt, latest.trans before, expiry⟩
        | none =>
          rw [held] at ih
          intro value storedAt last
          obtain ⟨evictAt, made, later⟩ := ih value storedAt (latest.symm.trans last)
          refine ⟨evictAt, ?_, later⟩
          rw [List.filterMap_append]
          exact List.mem_append_left _ made
      · rw [dropped]
        rw [held] at ih
        obtain ⟨storedAt, before, expiry⟩ := ih
        intro value storedAt' last
        cases (latest.trans before).symm.trans last
        refine ⟨evictAt, ?_, expiry ▸ expired⟩
        exact List.mem_filterMap.mpr ⟨call, List.mem_append_right _ List.mem_cons_self, made⟩

/-- A lookup answers with the context last stored, whose time is not over. -/
theorem lookup_after {ttl : Duration} (positive : 0 < ttl) {calls : List CacheCall}
    {assetID : String} {now : Time} {context : OntologyContext}
    (hit : (after ttl calls).lookup assetID now = some context) :
    ∃ storedAt, lastStored assetID calls = some (context, storedAt) ∧ now ≤ storedAt + ttl := by
  have known := remembers positive calls assetID
  unfold lookup at hit
  cases held : (after ttl calls).entries[assetID]? with
  | none =>
    rw [held] at hit
    cases hit
  | some entry =>
    rw [held] at hit known
    obtain ⟨alive, same⟩ := Option.ite_none_left_eq_some.mp hit
    cases same
    obtain ⟨storedAt, last, expiry⟩ := known
    exact ⟨storedAt, last, expiry ▸ not_lt.mp alive⟩

/-- While the clock has not gone back, the limit is not noticed by a lookup. -/
theorem lookup_eq_fresh {ttl : Duration} (positive : 0 < ttl) {calls : List CacheCall} {now : Time}
    (forward : ∀ evictAt ∈ calls.filterMap CacheCall.eviction, evictAt ≤ now) (assetID : String) :
    (after ttl calls).lookup assetID now = fresh ttl calls assetID now := by
  have known := remembers positive calls assetID
  unfold lookup fresh
  cases held : (after ttl calls).entries[assetID]? with
  | some entry =>
    rw [held] at known
    obtain ⟨storedAt, last, expiry⟩ := known
    rw [last]
    dsimp only
    rw [expiry]
  | none =>
    rw [held] at known
    cases last : lastStored assetID calls with
    | none => rfl
    | some pair =>
      obtain ⟨evictAt, made, passed⟩ := known pair.1 pair.2 last
      have gone : pair.2 + ttl < now := lt_of_lt_of_le passed (forward evictAt made)
      dsimp only
      rw [if_pos gone]

/-! ## How many entries it holds -/

/-- The time of some entry is over. -/
def SomeExpired (c : GraphContextCache) (now : Time) : Prop :=
  ∃ (assetID : String) (entry : GraphCacheEntry),
    c.entries[assetID]? = some entry ∧ entry.expiresAt < now

/-- A store finds the cache within its limit, or an entry of its asset, or one it can drop. -/
def HasRoom (c : GraphContextCache) : CacheCall → Prop
  | .lookup _ _ => True
  | .store assetID _ evictAt _ =>
    c.len ≤ maxGraphCacheEntries ∨ assetID ∈ c.entries ∨ c.SomeExpired evictAt

section
variable {c : GraphContextCache} {now : Time}

theorem size_evicted_le (c : GraphContextCache) (now : Time) : (c.evicted now).size ≤ c.len := by
  unfold evicted
  split
  · exact Std.ExtTreeMap.size_filter_le_size
  · exact le_rfl

/-- Over the limit, an entry whose time is over makes room. -/
theorem size_evicted_lt (beyond : maxGraphCacheEntries < c.len) (expired : c.SomeExpired now) :
    (c.evicted now).size < c.len := by
  obtain ⟨assetID, entry, held, passed⟩ := expired
  refine lt_of_le_of_ne (size_evicted_le c now) ?_
  intro same
  have large : c.entries.size > maxGraphCacheEntries := beyond
  unfold evicted at same
  rw [if_pos large] at same
  obtain ⟨member, found⟩ := Std.ExtTreeMap.getElem?_eq_some_iff.mp held
  have kept := Std.ExtTreeMap.size_filter_eq_size_iff.mp same assetID member
  rw [found] at kept
  simp [passed] at kept

theorem evicted_eq_self (live : ¬c.SomeExpired now) : c.evicted now = c.entries := by
  unfold evicted
  split
  · rw [Std.ExtTreeMap.filter_eq_self_iff]
    intro assetID member
    have held := Std.ExtTreeMap.getElem?_eq_some_getElem member
    have alive : now ≤ (c.entries[assetID]).expiresAt :=
      not_lt.mp fun passed => live ⟨assetID, _, held, passed⟩
    simpa using alive
  · rfl

/-- One more entry, where the asset has none yet. -/
theorem len_step_store (positive : 0 < c.ttl) (assetID : String) (value : OntologyContext)
    (evictAt storeAt : Time) :
    (c.step (.store assetID value evictAt storeAt)).len =
      if assetID ∈ c.evicted evictAt then (c.evicted evictAt).size
      else (c.evicted evictAt).size + 1 := by
  unfold len
  rw [entries_step_store positive, Std.ExtTreeMap.size_insert]
  simp only [Std.ExtTreeMap.contains_iff_mem]

theorem len_step_store_le (positive : 0 < c.ttl) (assetID : String) (value : OntologyContext)
    (evictAt storeAt : Time) :
    (c.step (.store assetID value evictAt storeAt)).len ≤ (c.evicted evictAt).size + 1 := by
  rw [len_step_store positive]
  split <;> omega

/-- From a cache within the bound, the calls that stay within it are those that have room. -/
theorem len_step_le_iff (positive : 0 < c.ttl) (within : c.len ≤ maxGraphCacheEntries + 1)
    (call : CacheCall) : (c.step call).len ≤ maxGraphCacheEntries + 1 ↔ c.HasRoom call := by
  cases call with
  | lookup assetID now => exact iff_of_true within trivial
  | store assetID value evictAt storeAt =>
    have grown := len_step_store_le positive assetID value evictAt storeAt
    have left := size_evicted_le c evictAt
    by_cases below : c.len ≤ maxGraphCacheEntries
    · exact iff_of_true (by omega) (Or.inl below)
    · have beyond : maxGraphCacheEntries < c.len := not_le.mp below
      by_cases expired : c.SomeExpired evictAt
      · have room := size_evicted_lt beyond expired
        exact iff_of_true (by omega) (Or.inr (Or.inr expired))
      · -- Nothing is dropped, so the cache grows exactly when the asset is new to it.
        rw [len_step_store positive, evicted_eq_self expired]
        change (if assetID ∈ c.entries then c.len else c.len + 1) ≤ _ ↔ _
        by_cases known : assetID ∈ c.entries
        · rw [if_pos known]
          exact iff_of_true within (Or.inr (Or.inl known))
        · rw [if_neg known]
          refine iff_of_false (by omega) ?_
          rintro (few | held | dropped)
          · exact below few
          · exact known held
          · exact expired dropped

end

/-- The bound holds at every point of a run when each of its calls has room. -/
theorem len_after_le_iff {ttl : Duration} (positive : 0 < ttl) (calls : List CacheCall) :
    (∀ first, first <+: calls → (after ttl first).len ≤ maxGraphCacheEntries + 1) ↔
      ∀ first call, first ++ [call] <+: calls → (after ttl first).HasRoom call := by
  have lasting : ∀ calls, 0 < (after ttl calls).ttl := fun calls => by rwa [ttl_after]
  constructor
  · intro bounded first call reached
    have before := bounded first ((List.prefix_append first [call]).trans reached)
    have afterwards := bounded _ reached
    rw [after_snoc] at afterwards
    exact (len_step_le_iff (lasting first) before call).mp afterwards
  · intro room first
    induction first using List.reverseRecOn with
    | nil => exact fun _ => Nat.zero_le _
    | append_singleton first call ih =>
      intro reached
      have before := ih ((List.prefix_append first [call]).trans reached)
      rw [after_snoc]
      exact (len_step_le_iff (lasting first) before call).mpr (room first call reached)

/-! ## How many assets it takes -/

/-- The assets stored within one `ttl` of `now`. -/
def recentAssets (ttl : Duration) (calls : List CacheCall) (now : Time) : Finset String :=
  (calls.filterMap (CacheCall.recentAsset ttl now)).toFinset

theorem card_recentAssets_le (ttl : Duration) (calls : List CacheCall) (now : Time) :
    (recentAssets ttl calls now).card ≤ calls.length :=
  (List.toFinset_card_le _).trans (List.length_filterMap_le _ calls)

theorem exists_of_lastStored {calls : List CacheCall} {assetID : String}
    {pair : OntologyContext × Time} (last : lastStored assetID calls = some pair) :
    ∃ evictAt, .store assetID pair.1 evictAt pair.2 ∈ calls := by
  obtain ⟨call, member, stored⟩ := List.exists_of_findSome?_eq_some last
  cases call with
  | lookup asked now => cases stored
  | store other value evictAt storeAt =>
    unfold CacheCall.storedFor at stored
    obtain ⟨rfl, same⟩ := Option.ite_none_right_eq_some.mp stored
    cases same
    exact ⟨evictAt, List.mem_reverse.mp member⟩

/-- A live entry belongs to an asset stored within the last `ttl`. -/
theorem mem_recentAssets {ttl : Duration} (positive : 0 < ttl) {calls : List CacheCall} {now : Time}
    {assetID : String} {entry : GraphCacheEntry}
    (held : (after ttl calls).entries[assetID]? = some entry) (alive : now ≤ entry.expiresAt) :
    assetID ∈ recentAssets ttl calls now := by
  have known := remembers positive calls assetID
  rw [held] at known
  obtain ⟨storedAt, last, expiry⟩ := known
  obtain ⟨evictAt, member⟩ := exists_of_lastStored last
  refine List.mem_toFinset.mpr (List.mem_filterMap.mpr ⟨_, member, ?_⟩)
  exact if_pos (expiry ▸ alive)

/-- A store has room while at most as many assets as the limit were stored within one `ttl`. -/
theorem hasRoom_of_few {ttl : Duration} (positive : 0 < ttl) {calls : List CacheCall}
    {evictAt : Time} (few : (recentAssets ttl calls evictAt).card ≤ maxGraphCacheEntries)
    (assetID : String) (value : OntologyContext) (storeAt : Time) :
    (after ttl calls).HasRoom (.store assetID value evictAt storeAt) := by
  by_cases expired : (after ttl calls).SomeExpired evictAt
  · exact Or.inr (Or.inr expired)
  · left
    have recent : (after ttl calls).entries.keys.toFinset ⊆ recentAssets ttl calls evictAt := by
      intro other member
      have key := Std.ExtTreeMap.mem_keys.mp (List.mem_toFinset.mp member)
      have held := Std.ExtTreeMap.getElem?_eq_some_getElem key
      exact mem_recentAssets positive held (not_lt.mp fun passed => expired ⟨other, _, held, passed⟩)
    calc (after ttl calls).len
        = (after ttl calls).entries.keys.length := Std.ExtTreeMap.length_keys.symm
      _ = (after ttl calls).entries.keys.toFinset.card :=
          (List.toFinset_card_of_nodup Std.ExtTreeMap.nodup_keys).symm
      _ ≤ (recentAssets ttl calls evictAt).card := Finset.card_le_card recent
      _ ≤ maxGraphCacheEntries := few

theorem bounded_of_few {ttl : Duration} (positive : 0 < ttl) {calls : List CacheCall}
    (few : ∀ first assetID value evictAt storeAt,
      first ++ [.store assetID value evictAt storeAt] <+: calls →
        (recentAssets ttl first evictAt).card ≤ maxGraphCacheEntries) :
    ∀ first, first <+: calls → (after ttl first).len ≤ maxGraphCacheEntries + 1 := by
  refine (len_after_le_iff positive calls).mpr ?_
  intro first call reached
  cases call with
  | lookup assetID now => exact trivial
  | store assetID value evictAt storeAt =>
    exact hasRoom_of_few positive (few first _ _ _ _ reached) assetID value storeAt

/-- Every asset of a site resolved at one time. -/
def burst (assets : List String) (value : OntologyContext) (now : Time) : List CacheCall :=
  assets.map fun assetID => .store assetID value now now

/-- Within one `ttl` nothing is dropped, whatever the limit. -/
theorem len_burst {ttl : Duration} (positive : 0 < ttl) (value : OntologyContext) (now : Time)
    {assets : List String} (distinct : assets.Nodup) :
    (after ttl (burst assets value now)).len = assets.length := by
  induction assets using List.reverseRecOn with
  | nil => rfl
  | append_singleton assets assetID ih =>
    obtain ⟨before, -, apart⟩ := List.nodup_append.mp distinct
    have stored : ∀ (other : String) (entry : GraphCacheEntry),
        (after ttl (burst assets value now)).entries[other]? = some entry →
        other ∈ assets ∧ entry.expiresAt = now + ttl := by
      intro other entry held
      have known := remembers positive (burst assets value now) other
      rw [held] at known
      obtain ⟨storedAt, last, expiry⟩ := known
      obtain ⟨evictAt, member⟩ := exists_of_lastStored last
      obtain ⟨same, among, call⟩ := List.mem_map.mp member
      cases call
      exact ⟨among, expiry⟩
    have kept : (after ttl (burst assets value now)).evicted now =
        (after ttl (burst assets value now)).entries := by
      refine evicted_eq_self ?_
      rintro ⟨other, entry, held, passed⟩
      rw [(stored other entry held).2] at passed
      exact absurd passed (not_lt.mpr (le_add_of_nonneg_right positive.le))
    have new : assetID ∉ (after ttl (burst assets value now)).entries := by
      intro member
      have held := Std.ExtTreeMap.getElem?_eq_some_getElem member
      exact apart assetID (stored assetID _ held).1 assetID List.mem_cons_self rfl
    have split : burst (assets ++ [assetID]) value now =
        burst assets value now ++ [.store assetID value now now] := List.map_append
    have lasting : 0 < (after ttl (burst assets value now)).ttl := by rwa [ttl_after]
    rw [split, after_snoc, len_step_store lasting, kept, if_neg new, List.length_append,
      List.length_singleton, ← ih before]
    rfl

/-- The numbers from zero on, as asset ids. -/
def site (size : Nat) : List String := (List.range size).map Nat.repr

theorem nodup_site (size : Nat) : (site size).Nodup :=
  List.Nodup.map (fun _ _ => Nat.repr_injective) List.nodup_range

theorem length_site (size : Nat) : (site size).length = size := by
  rw [site, List.length_map, List.length_range]

/-- No number bounds the cache. -/
theorem len_unbounded {ttl : Duration} (positive : 0 < ttl) (value : OntologyContext) (bound : Nat) :
    ∃ calls, bound < (after ttl calls).len := by
  refine ⟨burst (site (bound + 1)) value 0, ?_⟩
  rw [len_burst positive value 0 (nodup_site _), length_site]
  exact Nat.lt_succ_self bound

/-! ## The bound -/

/-- In a run, the cache stays within its bound, and its lookups are fresh, exactly when every
store has room. -/
theorem bounded_iff_hasRoom {ttl : Duration} (positive : 0 < ttl) (calls : List CacheCall) :
    (∀ first, first <+: calls →
      (after ttl first).len ≤ maxGraphCacheEntries + 1 ∧
        ∀ assetID now context, (after ttl first).lookup assetID now = some context →
          ∃ storedAt, lastStored assetID first = some (context, storedAt) ∧
            now ≤ storedAt + ttl) ↔
      ∀ first call, first ++ [call] <+: calls → (after ttl first).HasRoom call := by
  rw [← len_after_le_iff positive]
  constructor
  · intro both first reached
    exact (both first reached).1
  · intro bounded first reached
    exact ⟨bounded first reached, fun _ _ _ hit => lookup_after positive hit⟩

/-- `GRAPH_CACHE_TTL` as it is by default, in nanoseconds. -/
def defaultGraphCacheTTL : Duration := 5 * 60 * 1000000000

theorem defaultGraphCacheTTL_pos : 0 < defaultGraphCacheTTL := by decide

/-- What the stand-in makes up for an asset it does not know. -/
def unregistered : OntologyContext where
  assetID := "PUMP-7"
  assetName := "Unregistered Asset PUMP-7"
  assetClass := "industrial.rotating.generic"
  modelNumber := ""
  site := "PLANT-ROTTERDAM-L4"
  criticality := "HIGH"
  maintenanceWindow := ""
  parentSystems := []
  components := ["primary_drive", "instrumentation_loop"]
  assignedOperators := []
  upstreamDependencies := []
  downstreamImpacts := []
  blastRadius := 0

/-- Two assets stored and looked up again. -/
def quiet : List CacheCall :=
  [.store "PUMP-7" unregistered 0 0, .lookup "PUMP-7" 1, .store "FAN-2" unregistered 2 2,
    .lookup "PUMP-7" 3]

/-- A short run has room at every store. -/
theorem hasRoom_quiet (first : List CacheCall) (call : CacheCall)
    (reached : first ++ [call] <+: quiet) : (after defaultGraphCacheTTL first).HasRoom call := by
  cases call with
  | lookup assetID now => exact trivial
  | store assetID value evictAt storeAt =>
    have short : first.length ≤ quiet.length :=
      ((List.prefix_append first _).trans reached).length_le
    have few := (card_recentAssets_le defaultGraphCacheTTL first evictAt).trans short
    exact hasRoom_of_few defaultGraphCacheTTL_pos (few.trans (by decide)) assetID value storeAt

theorem lookup_quiet :
    (after defaultGraphCacheTTL quiet).lookup "PUMP-7" 3 = some unregistered := by
  rw [lookup_eq_fresh defaultGraphCacheTTL_pos (by decide)]
  rfl

theorem quiet_bounded :
    (after defaultGraphCacheTTL quiet).len ≤ maxGraphCacheEntries + 1 ∧
      ∃ storedAt, lastStored "PUMP-7" quiet = some (unregistered, storedAt) ∧
        3 ≤ storedAt + defaultGraphCacheTTL := by
  have kept := (bounded_iff_hasRoom defaultGraphCacheTTL_pos quiet).mpr hasRoom_quiet quiet
    (List.prefix_refl quiet)
  exact ⟨kept.1, kept.2 "PUMP-7" 3 unregistered lookup_quiet⟩

/-- One asset more than the bound, all resolved before the first of them runs out. -/
theorem burst_breaks_bound :
    ¬(after defaultGraphCacheTTL (burst (site 4098) unregistered 0)).len ≤
      maxGraphCacheEntries + 1 := by
  rw [len_burst defaultGraphCacheTTL_pos unregistered 0 (nodup_site 4098), length_site]
  decide

end GraphContextCache

end OpenOntology.Graph
