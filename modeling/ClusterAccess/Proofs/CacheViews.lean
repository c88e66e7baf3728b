/-
  ClusterAccess.Proofs.CacheViews

  What a timed cache shows at a time: its live entries, the one used longest ago
  first. Dead entries show nowhere, so each operation is known by what it makes of
  this view, and time only takes entries away from it.
-/
import ClusterAccess.TimedCache

namespace ClusterAccess

/-! ## Finding by a key -/

section Keyed

variable {κ β : Type} [DecidableEq κ] {f : β → κ} {k : κ} {xs : List β}

/-- What is found by its key is the only one that has it, where keys stand once. -/
theorem filter_eq_of_find?_eq_some (hnodup : (xs.map f).Nodup) {x : β}
    (h : xs.find? (fun y => f y = k) = some x) : xs.filter (fun y => f y = k) = [x] := by
  induction xs with
  | nil => cases h
  | cons y ys ih =>
    rw [List.map_cons, List.nodup_cons] at hnodup
    by_cases hy : f y = k
    · have hrest : ys.filter (fun y => f y = k) = [] := by
        rw [List.filter_eq_nil_iff]
        intro z hz
        rw [decide_eq_true_iff, ← hy]
        exact fun heq => hnodup.1 (heq ▸ List.mem_map_of_mem hz)
      rw [List.find?_cons_of_pos (by simpa using hy)] at h
      cases h
      rw [List.filter_cons_of_pos (by simpa using hy), hrest]
    · rw [List.find?_cons_of_neg (by simpa using hy)] at h
      rw [List.filter_cons_of_neg (by simpa using hy)]
      exact ih hnodup.2 h

theorem filter_eq_nil_of_find?_eq_none (h : xs.find? (fun y => f y = k) = none) :
    xs.filter (fun y => f y = k) = [] := by
  rw [List.filter_eq_nil_iff]
  exact List.find?_eq_none.1 h

theorem filter_ne_eq_self_of_find?_eq_none (h : xs.find? (fun y => f y = k) = none) :
    xs.filter (fun y => f y ≠ k) = xs := by
  rw [List.filter_eq_self]
  simpa using List.find?_eq_none.1 h

/-- What has another key and what has this one are all there is. -/
theorem filter_ne_append_filter_eq_perm (f : β → κ) (k : κ) (xs : List β) :
    ((xs.filter fun x => f x ≠ k) ++ xs.filter fun x => f x = k).Perm xs := by
  simpa using List.filter_append_perm (fun x => decide (f x ≠ k)) xs

end Keyed

namespace TimedCache

variable {κ α : Type} {c : TimedCache κ α} {now later : Int}

/-- The live entries, in the order of last use. -/
def view (c : TimedCache κ α) (now : Int) : List (CacheEntry κ α) :=
  c.entries.filter (c.isLive now)

/-! ## Reading a view -/

theorem mem_view {e : CacheEntry κ α} :
    e ∈ c.view now ↔ e ∈ c.entries ∧ now < e.storedAt + c.ttl := by
  rw [view, List.mem_filter, isLive, decide_eq_true_iff]

/-- Time only takes entries away. -/
theorem view_of_le (c : TimedCache κ α) (h : now ≤ later) :
    c.view later = (c.view now).filter (c.isLive later) := by
  rw [view, view, List.filter_filter]
  refine List.filter_congr fun e _ => ?_
  rw [Bool.eq_iff_iff, Bool.and_eq_true]
  simp only [isLive, decide_eq_true_iff]
  omega

/-- Two caches show the same but for one key, and the second shows no key twice if the first does
not. -/
structure AlikeBut (key : κ) (now : Int) (c c' : TimedCache κ α) : Prop where
  mem_iff : ∀ e, e.key ≠ key → (e ∈ c'.view now ↔ e ∈ c.view now)
  nodup : ((c.view now).map CacheEntry.key).Nodup → ((c'.view now).map CacheEntry.key).Nodup

theorem AlikeBut.trans {key : κ} {c' c'' : TimedCache κ α} (h : AlikeBut key now c c')
    (h' : AlikeBut key now c' c'') : AlikeBut key now c c'' :=
  ⟨fun e he => (h'.mem_iff e he).trans (h.mem_iff e he), fun hnodup => h'.nodup (h.nodup hnodup)⟩

variable [DecidableEq κ] {key : κ}

theorem live?_eq (c : TimedCache κ α) (now : Int) (key : κ) :
    c.live? now key = (c.view now).find? fun e => e.key = key := by
  rw [live?, view, List.find?_filter]
  congr 1
  funext e
  simp [Bool.and_comm]

theorem get?_eq (c : TimedCache κ α) (now : Int) (key : κ) :
    c.get? now key = ((c.view now).find? fun e => e.key = key).map CacheEntry.value := by
  rw [get?, live?_eq]

/-- What is shown under a key is found under it, where keys stand once. -/
theorem get?_of_mem_view (hnodup : ((c.view now).map CacheEntry.key).Nodup) {value : α}
    {storedAt : Int} (h : ⟨key, value, storedAt⟩ ∈ c.view now) : c.get? now key = some value := by
  rw [get?_eq]
  cases hfind : (c.view now).find? fun e => e.key = key with
  | none => exact absurd (decide_eq_true rfl) (List.find?_eq_none.1 hfind _ h)
  | some e =>
    have hown : ⟨key, value, storedAt⟩ ∈ (c.view now).filter fun e => e.key = key :=
      List.mem_filter.2 ⟨h, decide_eq_true rfl⟩
    rw [filter_eq_of_find?_eq_some hnodup hfind, List.mem_singleton] at hown
    rw [← hown]
    rfl

/-! ## Operations -/

/-- The other keys first, and then this one: the order behind a use. -/
def usedLast (key : κ) (entries : List (CacheEntry κ α)) : List (CacheEntry κ α) :=
  (entries.filter fun e => e.key ≠ key) ++ entries.filter fun e => e.key = key

theorem usedLast_perm (key : κ) (entries : List (CacheEntry κ α)) :
    (usedLast key entries).Perm entries :=
  filter_ne_append_filter_eq_perm CacheEntry.key key entries

@[simp] theorem ttl_touch (c : TimedCache κ α) (now : Int) (key : κ) :
    (c.touch now key).ttl = c.ttl := by
  rw [touch]
  split <;> rfl

@[simp] theorem capacity_touch (c : TimedCache κ α) (now : Int) (key : κ) :
    (c.touch now key).capacity = c.capacity := by
  rw [touch]
  split <;> rfl

theorem view_erase (c : TimedCache κ α) (now : Int) (key : κ) :
    (c.erase key).view now = (c.view now).filter fun e => e.key ≠ key := by
  rw [view, view, erase, List.filter_filter, List.filter_filter]
  refine List.filter_congr fun e _ => ?_
  rw [Bool.and_comm]
  rfl

theorem view_update (c : TimedCache κ α) (now : Int) (key : κ) (f : α → α) :
    (c.update key f).view now =
      (c.view now).map fun e => if e.key = key then { e with value := f e.value } else e := by
  rw [view, view, update, List.filter_map]
  congr 1
  refine List.filter_congr fun e _ => ?_
  simp only [Function.comp, isLive]
  split <;> rfl

/-- A use makes a live entry the last one, and does nothing where there is none. -/
theorem view_touch (hnodup : ((c.view now).map CacheEntry.key).Nodup) :
    (c.touch now key).view now = usedLast key (c.view now) := by
  rw [touch, live?_eq, usedLast]
  cases hfind : (c.view now).find? fun e => e.key = key with
  | none =>
    rw [filter_eq_nil_of_find?_eq_none hfind, List.append_nil,
      filter_ne_eq_self_of_find?_eq_none hfind]
  | some e =>
    have hlive : c.isLive now e := (List.mem_filter.1 (List.mem_of_find?_eq_some hfind)).2
    rw [filter_eq_of_find?_eq_some hnodup hfind, ← view_erase]
    simp only [view, List.filter_append]
    congr 1
    exact List.filter_cons_of_pos hlive

/-- A stored value is the last one. As many entries as room is needed for leave from the front. -/
theorem view_insert (c : TimedCache κ α) (now : Int) (key : κ) (value : α) :
    (c.insert now key value).view now =
      ((c.view now).filter fun e => e.key ≠ key).drop
          (((c.view now).filter fun e => e.key ≠ key).length + 1 - c.capacity) ++
        if 0 < c.ttl then [⟨key, value, now⟩] else [] := by
  have hothers : c.others now key = (c.view now).filter fun e => e.key ≠ key := by
    rw [others, view, List.filter_filter]
    refine List.filter_congr fun e _ => ?_
    rw [Bool.decide_and, Bool.decide_eq_true]
  rw [view, insert, List.filter_append, hothers]
  congr 1
  · rw [List.filter_eq_self]
    intro e he
    exact (List.mem_filter.1 (List.mem_filter.1 (List.mem_of_mem_drop he)).1).2
  · by_cases httl : 0 < c.ttl
    · rw [if_pos httl]
      refine List.filter_cons_of_pos ?_
      simp only [isLive, decide_eq_true_iff]
      omega
    · rw [if_neg httl]
      refine List.filter_cons_of_neg ?_
      simp only [isLive, decide_eq_true_iff]
      omega

/-! ## Under one key -/

theorem mem_view_touch (hnodup : ((c.view now).map CacheEntry.key).Nodup) {e : CacheEntry κ α} :
    e ∈ (c.touch now key).view now ↔ e ∈ c.view now := by
  rw [view_touch hnodup, usedLast, List.mem_append, List.mem_filter, List.mem_filter]
  by_cases he : e.key = key <;> simp [he]

theorem alikeBut_touch (hnodup : ((c.view now).map CacheEntry.key).Nodup) :
    AlikeBut key now c (c.touch now key) := by
  refine ⟨fun e _ => mem_view_touch hnodup, fun _ => ?_⟩
  rw [view_touch hnodup]
  exact ((usedLast_perm key _).map CacheEntry.key).nodup_iff.2 hnodup

/-- A value that is changed is changed where it stands. -/
theorem mem_view_update {f : α → α} {value : α} {storedAt : Int}
    (h : ⟨key, value, storedAt⟩ ∈ c.view now) :
    ⟨key, f value, storedAt⟩ ∈ (c.update key f).view now := by
  rw [view_update, List.mem_map]
  exact ⟨_, h, if_pos rfl⟩

theorem map_key_view_update (c : TimedCache κ α) (now : Int) (key : κ) (f : α → α) :
    ((c.update key f).view now).map CacheEntry.key = (c.view now).map CacheEntry.key := by
  rw [view_update, List.map_map]
  refine List.map_congr_left fun e _ => ?_
  simp only [Function.comp_def]
  split <;> rfl

/-- No key is shown because of a change that was not shown before. -/
theorem key_mem_of_mem_view_update {f : α → α} {e : CacheEntry κ α}
    (he : e ∈ (c.update key f).view now) : e.key ∈ (c.view now).map CacheEntry.key := by
  rw [← map_key_view_update c now key f]
  exact List.mem_map_of_mem he

theorem alikeBut_update (c : TimedCache κ α) (now : Int) (key : κ) (f : α → α) :
    AlikeBut key now c (c.update key f) := by
  refine ⟨fun e he => ?_, fun hnodup => ?_⟩
  · rw [view_update, List.mem_map]
    constructor
    · rintro ⟨old, hold, rfl⟩
      by_cases hkey : old.key = key
      · rw [if_pos hkey] at he
        exact absurd hkey he
      · rwa [if_neg hkey]
    · exact fun hmem => ⟨e, hmem, if_neg he⟩
  · rw [map_key_view_update]
    exact hnodup

theorem alikeBut_erase (c : TimedCache κ α) (now : Int) (key : κ) :
    AlikeBut key now c (c.erase key) := by
  refine ⟨fun e he => ?_, fun hnodup => ?_⟩
  · rw [view_erase, List.mem_filter, decide_eq_true_iff]
    exact and_iff_left he
  · rw [view_erase]
    exact hnodup.sublist (List.filter_sublist.map CacheEntry.key)

/-- A stored value is shown, unless its time is no time. -/
theorem mem_view_insert_self {value : α} (httl : 0 < c.ttl) :
    ⟨key, value, now⟩ ∈ (c.insert now key value).view now := by
  rw [view_insert, if_pos httl]
  exact List.mem_append_right _ (List.mem_singleton.2 rfl)

/-- Where there is room, a stored value takes nobody's place. -/
theorem view_insert_of_room (c : TimedCache κ α) (now : Int) (key : κ) (value : α)
    (hroom : ((c.view now).filter fun e => e.key ≠ key).length + 1 ≤ c.capacity) :
    (c.insert now key value).view now = ((c.view now).filter fun e => e.key ≠ key) ++
      if 0 < c.ttl then [⟨key, value, now⟩] else [] := by
  rw [view_insert, Nat.sub_eq_zero_of_le hroom, List.drop_zero]

theorem alikeBut_insert {value : α}
    (hroom : ((c.view now).filter fun e => e.key ≠ key).length + 1 ≤ c.capacity) :
    AlikeBut key now c (c.insert now key value) := by
  refine ⟨fun e he => ?_, fun hnodup => ?_⟩
  · rw [view_insert_of_room c now key value hroom, List.mem_append, List.mem_filter,
      decide_eq_true_iff]
    constructor
    · rintro (⟨hmem, -⟩ | hnew)
      · exact hmem
      · split at hnew
        · rw [List.mem_singleton.1 hnew] at he
          exact absurd rfl he
        · cases hnew
    · exact fun hmem => .inl ⟨hmem, he⟩
  · rw [view_insert_of_room c now key value hroom, List.map_append, List.nodup_append]
    refine ⟨hnodup.sublist (List.filter_sublist.map CacheEntry.key), ?_, ?_⟩
    · split <;> simp
    · rintro k hold _ hnew rfl
      obtain ⟨e, he, rfl⟩ := List.mem_map.1 hold
      refine of_decide_eq_true (List.mem_filter.1 he).2 ?_
      split at hnew
      · simpa using hnew
      · cases hnew

end TimedCache
end ClusterAccess
