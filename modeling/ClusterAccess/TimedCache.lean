/-
  ClusterAccess.TimedCache

  Values kept under keys for a while. An entry is dead as soon as its time has
  passed, and at once if it has none; storing a value again renews it. When a new
  key comes to a full cache, the live entry that was used longest ago makes room:
  both reading and storing count as use.
-/

namespace ClusterAccess

/-- A stored value, and when it was stored. -/
structure CacheEntry (κ α : Type) where
  key : κ
  value : α
  storedAt : Int
  deriving Repr

/-- A bounded cache. The entry that was used longest ago comes first. -/
structure TimedCache (κ α : Type) where
  capacity : Nat
  /-- How many seconds an entry lives. -/
  ttl : Nat
  entries : List (CacheEntry κ α) := []
  deriving Repr

namespace TimedCache

variable {κ α : Type} [DecidableEq κ]

/-- Whether an entry is live at a time. -/
def isLive (c : TimedCache κ α) (now : Int) (e : CacheEntry κ α) : Bool :=
  now < e.storedAt + c.ttl

/-- The live entry under a key. -/
def live? (c : TimedCache κ α) (now : Int) (key : κ) : Option (CacheEntry κ α) :=
  c.entries.find? fun e => e.key = key ∧ c.isLive now e

/-- The live value under a key. -/
def get? (c : TimedCache κ α) (now : Int) (key : κ) : Option α :=
  (c.live? now key).map CacheEntry.value

/-- Removes a key. -/
def erase (c : TimedCache κ α) (key : κ) : TimedCache κ α :=
  { c with entries := c.entries.filter fun e => e.key ≠ key }

/-- Changes the values under a key. This is no use, and renews nothing. -/
def update (c : TimedCache κ α) (key : κ) (f : α → α) : TimedCache κ α :=
  { c with entries := c.entries.map fun e =>
      if e.key = key then { e with value := f e.value } else e }

/-- Counts a reading as use: the live entry under the key becomes the last. -/
def touch (c : TimedCache κ α) (now : Int) (key : κ) : TimedCache κ α :=
  match c.live? now key with
  | some e => { c with entries := (c.erase key).entries ++ [e] }
  | none => c

/-- The live entries under other keys. -/
def others (c : TimedCache κ α) (now : Int) (key : κ) : List (CacheEntry κ α) :=
  c.entries.filter fun e => e.key ≠ key ∧ c.isLive now e

/-- Stores a value: dead entries leave, then as many as room is needed for. -/
def insert (c : TimedCache κ α) (now : Int) (key : κ) (value : α) : TimedCache κ α :=
  let kept := c.others now key
  { c with entries := kept.drop (kept.length + 1 - c.capacity) ++ [⟨key, value, now⟩] }

/-! ## Small facts -/

theorem get?_erase_self (c : TimedCache κ α) (now : Int) (key : κ) :
    (c.erase key).get? now key = none := by
  have h : (c.erase key).live? now key = none := by
    simp only [live?, erase, List.find?_eq_none, List.mem_filter]
    rintro e ⟨_, he⟩
    simp_all
  simp [get?, h]

theorem get?_erase_of_ne (c : TimedCache κ α) (now : Int) {key other : κ} (h : other ≠ key) :
    (c.erase key).get? now other = c.get? now other := by
  have : (c.erase key).live? now other = c.live? now other := by
    simp only [live?, erase, List.find?_filter]
    congr 1
    funext e
    by_cases he : e.key = other <;> simp_all [isLive]
  rw [get?, this, get?]

/-- A stored value is found until its time has passed. -/
theorem get?_insert_self (c : TimedCache κ α) (now later : Int) (key : κ) (value : α) :
    (c.insert now key value).get? later key = if later < now + c.ttl then some value else none := by
  -- The new entry stands last, and no other one has its key.
  have hrest : ∀ e ∈ (c.others now key).drop ((c.others now key).length + 1 - c.capacity),
      e.key ≠ key := by
    intro e he
    have hm := List.mem_of_mem_drop he
    simp only [others, List.mem_filter, decide_eq_true_eq] at hm
    exact hm.2.1
  have hnone : ((c.others now key).drop ((c.others now key).length + 1 - c.capacity)).find?
      (fun e => e.key = key ∧ (c.insert now key value).isLive later e) = none := by
    simp only [List.find?_eq_none]
    intro e he
    simp [hrest e he]
  have hlive : (c.insert now key value).live? later key =
      if later < now + c.ttl then some ⟨key, value, now⟩ else none := by
    rw [live?]
    show List.find? _ (_ ++ _) = _
    rw [List.find?_append, hnone, Option.none_or]
    by_cases h : later < now + c.ttl <;> simp [isLive, insert, h]
  rw [get?, hlive]
  split <;> rfl

theorem get?_nil (c : TimedCache κ α) (h : c.entries = []) (now : Int) (key : κ) :
    c.get? now key = none := by
  simp [get?, live?, h]

/-- A cache never outgrows its capacity. -/
theorem length_entries_insert_le (c : TimedCache κ α) (hc : 0 < c.capacity) (now : Int) (key : κ)
    (value : α) : (c.insert now key value).entries.length ≤ c.capacity := by
  simp only [insert, List.length_append, List.length_drop, List.length_cons, List.length_nil]
  omega

end TimedCache
end ClusterAccess
