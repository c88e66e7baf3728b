/-
  ClusterAccess.Proofs.InterleavedListings

  Many callers who page through listings at once. Each of them begins with the
  empty token, goes on with the token that it was given last, and asks again with
  the same token when a page has failed. While it waits for the server any other
  may ask or be answered. A caller finds what a snapshot has of its kind, as if it
  had been alone.
-/
import ClusterAccess.Proofs.ListingsAlone
import ClusterAccess.Proofs.PageHalves

namespace ClusterAccess.Auditor

open ClusterAccess.Action
open Gateway (OpensWithoutToken)
open Catalog (Rest)

/-! ## Callers -/

/-- How far a caller has come with its listing. -/
inductive Progress
  | new
  /-- It was given this token at this time, with the last page. -/
  | paging (token : String) (servedAt : Int)
  | done
  deriving DecidableEq

/-- Someone who pages through a listing. -/
structure Caller where
  kindName : String
  progress : Progress := .new
  /-- The page that it waits for. -/
  awaited : Option Awaited := none
  /-- All resources that it was given. -/
  found : List Resource := []

namespace Caller

/-- The token that a caller asks with next. -/
def token? (caller : Caller) : Option String :=
  match caller.progress with
  | .new => some ""
  | .paging token _ => some token
  | .done => none

/-- Whether a caller has a listing that is not finished. -/
def isPaging (caller : Caller) : Bool :=
  match caller.progress with
  | .paging _ _ => true
  | _ => false

/-- Whether the next page of a listing is asked for in time. -/
def InTime (ttl : Nat) (now : Int) (caller : Caller) : Prop :=
  match caller.progress with
  | .paging _ servedAt => now - servedAt < ttl
  | _ => True

instance (ttl : Nat) (now : Int) : (caller : Caller) → Decidable (caller.InTime ttl now)
  | ⟨_, .new, _, _⟩ => isTrue trivial
  | ⟨_, .paging _ servedAt, _, _⟩ => inferInstanceAs (Decidable (now - servedAt < ttl))
  | ⟨_, .done, _, _⟩ => isTrue trivial

/-- A caller behind a page that it was given. -/
def receive (caller : Caller) (now : Int) (page : Page Resource) : Caller :=
  { caller with
    awaited := none
    found := caller.found ++ page.items
    progress := match page.next with
      | some next => .paging next now
      | none => .done }

end Caller

/-! ## Runs -/

/-- An auditor with its callers, and the faults that they were told. -/
structure Hall where
  auditor : Auditor
  callers : List Caller
  faults : List Fault := []

namespace Hall

/-- What can happen. -/
inductive Event
  /-- A caller who does not wait asks for its next page. -/
  | ask (i : Nat)
  /-- The page that a caller waits for comes, or fails. -/
  | answer (i : Nat)
  | wait (seconds : Nat)
  | arm (failure : ArmedFailure)

/-- A caller asks for its next page, if it has one to ask for and does not wait. -/
def ask (h : Hall) (i : Nat) (caller : Caller) : Hall :=
  match caller.awaited, caller.token? with
  | none, some token =>
    match askPage caller.kindName token h.auditor with
    | .ok p a => { h with
        auditor := a
        callers := h.callers.set i { caller with awaited := some p } }
    | .error e a => { h with auditor := a, faults := h.faults ++ [e] }
  | _, _ => h

/-- A caller is given the page that it waits for, or is told a fault. -/
def answer (h : Hall) (i : Nat) (caller : Caller) : Hall :=
  match caller.awaited with
  | some p =>
    match answerPage p h.auditor with
    | .ok page a => { h with
        auditor := a
        callers := h.callers.set i (caller.receive a.gateway.clock page) }
    | .error e a => { h with
        auditor := a
        callers := h.callers.set i { caller with awaited := none }
        faults := h.faults ++ [e] }
  | none => h

/-- What is there after one more event. -/
def step (h : Hall) : Event → Hall
  | .ask i => match h.callers[i]? with
    | some caller => h.ask i caller
    | none => h
  | .answer i => match h.callers[i]? with
    | some caller => h.answer i caller
    | none => h
  | .wait seconds =>
    { h with auditor := { h.auditor with gateway := h.auditor.gateway.undergo (.wait seconds) } }
  | .arm failure =>
    { h with auditor := { h.auditor with gateway := h.auditor.gateway.undergo (.arm failure) } }

/-- What is there after these events. -/
def run (h : Hall) (events : List Event) : Hall :=
  events.foldl step h

/-- A new auditor, and callers who want to list these kinds. -/
def start (settings : Settings) (g : Gateway) (kindNames : List String) : Hall where
  auditor := ofGateway settings g
  callers := kindNames.map fun kindName => { kindName }

/-- Whoever asks for the next page of a listing asks in time. -/
def IsTimely (h : Hall) : Event → Prop
  | .ask i => ∀ caller ∈ h.callers[i]?,
    caller.InTime h.auditor.settings.listingTtl h.auditor.gateway.clock
  | _ => True

/-- How many listings are unfinished. -/
def unfinished (h : Hall) : Nat :=
  h.callers.countP Caller.isPaging

/-- In a run, nobody asks too late, and there are never too many unfinished listings. -/
def IsOrderly : Hall → List Event → Prop
  | _, [] => True
  | h, e :: events =>
    h.IsTimely e ∧ (h.step e).unfinished ≤ listingCapacity ∧ (h.step e).IsOrderly events

instance (h : Hall) : (e : Event) → Decidable (h.IsTimely e)
  | .ask i => inferInstanceAs (Decidable (∀ caller ∈ h.callers[i]?,
      caller.InTime h.auditor.settings.listingTtl h.auditor.gateway.clock))
  | .answer _ => isTrue trivial
  | .wait _ => isTrue trivial
  | .arm _ => isTrue trivial

instance : (h : Hall) → (events : List Event) → Decidable (h.IsOrderly events)
  | _, [] => isTrue trivial
  | h, e :: events =>
    have : Decidable ((h.step e).IsOrderly events) := instDecidableIsOrderly (h.step e) events
    inferInstanceAs (Decidable (_ ∧ _ ∧ _))

end Hall

/-! ## Where callers stand -/

/-- The page of a listing that is awaited once its catalogue has given what needs no server. -/
def halfway (id : String) (c : Catalog) (t : PageToken) : Awaited :=
  ⟨id, c.prepare.2, t, c.prepare.1⟩

/-- So much of a listing has been found: with what it gives from a token and a catalogue on, it is
the whole. -/
def HasFound (w : World) (first : Catalog) (found : List Resource) (t : PageToken) (c : Catalog) :
    Prop :=
  ∀ rest, Rest w t c rest → Rest w {} first (found ++ rest)

namespace HasFound

variable {w : World} {first c c' : Catalog} {found items : List Resource} {t t' : PageToken}

theorem start (w : World) (first : Catalog) : HasFound w first [] {} first :=
  fun _ hrest => hrest

theorem last (h : HasFound w first found t c) (hturn : c.turn? w t = some (⟨items, none⟩, c')) :
    Rest w {} first (found ++ items) :=
  h items (.last hturn)

/-- Behind a page, so much more has been found, whichever listing the next token names. -/
theorem more {next : String} (h : HasFound w first found t c)
    (hturn : c.turn? w t = some (⟨items, some next⟩, c')) (ht' : PageToken.decode next = .ok t')
    (listing : Option String) : HasFound w first (found ++ items) { t' with listing } c' := by
  intro rest hrest
  rw [List.append_assoc]
  exact h _ (.more hturn ht' (hrest.congr rfl rfl))

end HasFound

namespace Caller

/-- The listing that a caller has, or waits to have. -/
def listing? (caller : Caller) : Option String :=
  match caller.progress, caller.awaited with
  | .new, some p => some p.id
  | .paging token _, _ => (PageToken.decode token).toOption.bind PageToken.listing
  | _, _ => none

/-- A caller has one listing at most. -/
theorem eq_of_listing? {caller : Caller} {id : String} (hlisting : caller.listing? = some id)
    (other : String) (hother : caller.listing? = some other) : other = id :=
  Option.some.inj (hother.symm.trans hlisting)

/-- The listing of a caller who is paging. -/
def unfinished? (caller : Caller) : Option String :=
  if caller.isPaging then caller.listing? else none

/-- Where a caller can stand. Whoever has a listing has found what comes before its token, and the
catalogue of the listing is kept as long as the next page can be asked for in time. -/
inductive Sound (w : World) (settings : Settings) (a : Auditor) : Caller → Prop
  | idle {kindName : String} : Sound w settings a { kindName }
  | opening {kindName : String} {first : Catalog} {n : Nat} :
    catalogOf? (freshCatalogs settings) kindName = some first → n ≤ a.issued →
      Sound w settings a { kindName, awaited := some (halfway (listingId n) first {}) }
  | paging {kindName token : String} {servedAt : Int} {awaited : Option Awaited}
      {found : List Resource} {first c : Catalog} {t : PageToken} {n : Nat} :
    catalogOf? (freshCatalogs settings) kindName = some first → n ≤ a.issued →
      PageToken.decode token = .ok t → t.listing = some (listingId n) → c.IsPrepared →
      c.kind = first.kind → HasFound w first found t c →
      (a.gateway.clock - servedAt < settings.listingTtl →
        ⟨listingId n, c, servedAt⟩ ∈ a.listings.view a.gateway.clock) →
      (∀ p, awaited = some p → p = halfway (listingId n) c t) →
        Sound w settings a ⟨kindName, .paging token servedAt, awaited, found⟩
  | done {kindName : String} {found : List Resource} {first : Catalog} :
    catalogOf? (freshCatalogs settings) kindName = some first → Rest w {} first found →
      Sound w settings a ⟨kindName, .done, none, found⟩

namespace Sound

variable {w : World} {settings : Settings} {a a' : Auditor} {caller : Caller} {id : String}
  {p : Awaited}

/-- What a caller who waits waits for. -/
theorem exists_halfway (hs : caller.Sound w settings a) (hp : caller.awaited = some p) :
    ∃ first c t n, p = halfway (listingId n) c t ∧ n ≤ a.issued ∧
      catalogOf? (freshCatalogs settings) caller.kindName = some first ∧
      c.kind = first.kind ∧ HasFound w first caller.found t c ∧
      caller.listing? = some (listingId n) := by
  cases hs with
  | idle => cases hp
  | opening hkind hissued =>
    cases hp
    exact ⟨_, _, _, _, rfl, hissued, hkind, rfl, .start w _, rfl⟩
  | paging hkind hissued htoken hlisting _ hsame hsofar _ hawaited =>
    refine ⟨_, _, _, _, hawaited p hp, hissued, hkind, hsame, hsofar, ?_⟩
    simp only [listing?, htoken]
    exact hlisting
  | done => cases hp

/-- Where a caller stands who is paging. -/
theorem of_paging {kindName token : String} {servedAt : Int} {awaited : Option Awaited}
    {found : List Resource}
    (hs : Caller.Sound w settings a ⟨kindName, .paging token servedAt, awaited, found⟩) :
    ∃ first c t n, catalogOf? (freshCatalogs settings) kindName = some first ∧ n ≤ a.issued ∧
      PageToken.decode token = .ok t ∧ t.listing = some (listingId n) ∧ c.IsPrepared ∧
      c.kind = first.kind ∧ HasFound w first found t c ∧
      (a.gateway.clock - servedAt < settings.listingTtl →
        ⟨listingId n, c, servedAt⟩ ∈ a.listings.view a.gateway.clock) ∧
      ∀ p, awaited = some p → p = halfway (listingId n) c t := by
  cases hs with
  | paging hkind hissued htoken hid hprepared hsame hsofar hkept hawaited =>
    exact ⟨_, _, _, _, hkind, hissued, htoken, hid, hprepared, hsame, hsofar, hkept, hawaited⟩

/-- The listings of callers have ids that were given out. -/
theorem exists_listingId (hs : caller.Sound w settings a) (hlisting : caller.listing? = some id) :
    ∃ n ≤ a.issued, id = listingId n := by
  cases hs with
  | idle => cases hlisting
  | opening hkind hissued =>
    cases hlisting
    exact ⟨_, hissued, rfl⟩
  | paging hkind hissued htoken hlisting' =>
    simp only [listing?, htoken] at hlisting
    exact ⟨_, hissued, Option.some.inj (hlisting.symm.trans hlisting')⟩
  | done => cases hlisting

/-- A caller stands where it stood while only listings of others change. -/
theorem of_alikeBut (hs : caller.Sound w settings a) (hlisting : caller.listing? ≠ some id)
    (hfollows : Follows a a')
    (halike : TimedCache.AlikeBut id a.gateway.clock a.listings a'.listings) :
    caller.Sound w settings a' := by
  cases hs with
  | idle => exact .idle
  | opening hkind hissued => exact .opening hkind (Nat.le_trans hissued hfollows.issued_le)
  | paging hkind hissued htoken hid hprepared hsame hsofar hkept hawaited =>
    refine .paging hkind (Nat.le_trans hissued hfollows.issued_le) htoken hid hprepared hsame hsofar
      (fun hyoung => ?_) hawaited
    rw [hfollows.gateway.clock_eq] at hyoung ⊢
    refine (halike.mem_iff _ fun heq => hlisting ?_).2 (hkept hyoung)
    simp only [listing?, htoken]
    exact hid.trans (congrArg some heq)
  | done hkind hrest => exact .done hkind hrest

/-- A caller stands where it stood while time passes. -/
theorem of_undergo (hs : caller.Sound w settings a) (httl : a.listings.ttl = settings.listingTtl)
    (i : Gateway.Incident) :
    caller.Sound w settings { a with gateway := a.gateway.undergo i } := by
  have hclock := Gateway.clock_le_undergo a.gateway i
  cases hs with
  | idle => exact .idle
  | opening hkind hissued => exact .opening hkind hissued
  | paging hkind hissued htoken hid hprepared hsame hsofar hkept hawaited =>
    refine .paging hkind hissued htoken hid hprepared hsame hsofar (fun hyoung => ?_) hawaited
    simp only at hyoung
    obtain ⟨hentry, -⟩ := TimedCache.mem_view.1 (hkept (by omega))
    refine TimedCache.mem_view.2 ⟨hentry, ?_⟩
    simp only [httl]
    omega
  | done hkind hrest => exact .done hkind hrest

end Sound

end Caller

/-! ## What is known of a hall -/

namespace Hall

/-- At every moment of an orderly run: the server is the one from the beginning, the cache keeps
unfinished listings of callers only, each under the id of one caller, and all callers stand well. -/
structure Sound (w : World) (settings : Settings) (h : Hall) : Prop where
  settings_eq : h.auditor.settings = settings
  catalogs_eq : h.auditor.catalogs = freshCatalogs settings
  ttl_eq : h.auditor.listings.ttl = settings.listingTtl
  capacity_eq : h.auditor.listings.capacity = listingCapacity
  inWorld : h.auditor.gateway.In w
  opens : h.auditor.gateway.OpensWithoutToken
  nodup : ((h.auditor.listings.view h.auditor.gateway.clock).map CacheEntry.key).Nodup
  owned : ∀ e ∈ h.auditor.listings.view h.auditor.gateway.clock,
    ∃ (i : Nat) (caller : Caller), h.callers[i]? = some caller ∧ caller.isPaging ∧
      caller.listing? = some e.key
  apart : ∀ (i j : Nat) (caller other : Caller) (id : String),
    h.callers[i]? = some caller → h.callers[j]? = some other →
      caller.listing? = some id → other.listing? = some id → i = j
  callers : ∀ (i : Nat) (caller : Caller),
    h.callers[i]? = some caller → caller.Sound w settings h.auditor
  faults : ∀ e ∈ h.faults, e.IsNoToken

namespace Sound

variable {w : World} {settings : Settings} {h : Hall} {i : Nat} {caller caller' : Caller}
  {a : Auditor} {id : String}

/-- One caller moves, and the cache changes under the id of its listing at most. -/
theorem set (hs : Sound w settings h) (hi : h.callers[i]? = some caller)
    (hfollows : Follows h.auditor a) (hworld : a.gateway.In w)
    (hopens : a.gateway.OpensWithoutToken)
    (hbefore : ∀ other, caller.listing? = some other → other = id)
    (hafter : ∀ other, caller'.listing? = some other → other = id)
    (hothers : ∀ (j : Nat) (other : Caller),
      h.callers[j]? = some other → other.listing? = some id → j = i)
    (halike : TimedCache.AlikeBut id h.auditor.gateway.clock h.auditor.listings a.listings)
    (hheld : ∀ e ∈ a.listings.view h.auditor.gateway.clock, e.key = id →
      caller'.isPaging ∧ caller'.listing? = some id)
    (hcaller : caller'.Sound w settings a) :
    Sound w settings { h with auditor := a, callers := h.callers.set i caller' } := by
  obtain ⟨hlt, -⟩ := List.getElem?_eq_some_iff.1 hi
  have hself : (h.callers.set i caller')[i]? = some caller' := by
    rw [List.getElem?_set_self hlt]
  have hother : ∀ {j}, j ≠ i → (h.callers.set i caller')[j]? = h.callers[j]? :=
    fun hj => List.getElem?_set_ne (Ne.symm hj)
  refine ⟨hfollows.settings_eq.trans hs.settings_eq, hfollows.catalogs_eq.trans hs.catalogs_eq,
    hfollows.ttl_eq.trans hs.ttl_eq, hfollows.capacity_eq.trans hs.capacity_eq, hworld, hopens,
    ?_, ?_, ?_, ?_, hs.faults⟩
  · show ((a.listings.view a.gateway.clock).map CacheEntry.key).Nodup
    rw [hfollows.gateway.clock_eq]
    exact halike.nodup hs.nodup
  · -- What is kept under the id is the mover's, and the rest is whose it was.
    show ∀ e ∈ a.listings.view a.gateway.clock, _
    rw [hfollows.gateway.clock_eq]
    intro e he
    by_cases hkey : e.key = id
    · obtain ⟨hpaging, hlisting⟩ := hheld e he hkey
      exact ⟨i, caller', hself, hpaging, hlisting.trans (congrArg some hkey.symm)⟩
    · obtain ⟨j, other, hj, hpaging, hlisting⟩ := hs.owned e ((halike.mem_iff e hkey).1 he)
      have hne : j ≠ i := by
        rintro rfl
        rw [hi] at hj
        cases hj
        exact hkey (hbefore e.key hlisting)
      exact ⟨j, other, (hother hne).trans hj, hpaging, hlisting⟩
  · -- If one of two callers with the same listing is the mover, then nobody else has it.
    intro j k one two id' hj hk hone htwo
    by_cases hji : j = i
    · by_cases hki : k = i
      · exact hji.trans hki.symm
      · subst hji
        rw [hself] at hj
        cases hj
        obtain rfl := hafter id' hone
        exact (hothers k two ((hother hki).symm.trans hk) htwo).symm
    · by_cases hki : k = i
      · subst hki
        rw [hself] at hk
        cases hk
        obtain rfl := hafter id' htwo
        exact hothers j one ((hother hji).symm.trans hj) hone
      · exact hs.apart j k one two id' ((hother hji).symm.trans hj) ((hother hki).symm.trans hk)
          hone htwo
  · intro j other hj
    by_cases hne : j = i
    · subst hne
      rw [hself] at hj
      cases hj
      exact hcaller
    · have hj' := (hother hne).symm.trans hj
      exact (hs.callers j other hj').of_alikeBut
        (fun hlisting => hne (hothers j other hj' hlisting)) hfollows halike

/-- Faults that are no faults of a token may be told. -/
theorem tell (hs : Sound w settings h) {e : Fault} (he : e.IsNoToken) :
    Sound w settings { h with faults := h.faults ++ [e] } :=
  ⟨hs.settings_eq, hs.catalogs_eq, hs.ttl_eq, hs.capacity_eq, hs.inWorld, hs.opens, hs.nodup,
    hs.owned, hs.apart, hs.callers,
    List.forall_mem_append.2 ⟨hs.faults, List.forall_mem_singleton.2 he⟩⟩

/-- Time passes, or a failure is to come. -/
theorem undergo (hs : Sound w settings h) {i : Gateway.Incident}
    (hworld : (h.auditor.gateway.undergo i).In w)
    (hopens : (h.auditor.gateway.undergo i).OpensWithoutToken) :
    Sound w settings
      { h with auditor := { h.auditor with gateway := h.auditor.gateway.undergo i } } := by
  have hview := TimedCache.view_of_le h.auditor.listings
    (Gateway.clock_le_undergo h.auditor.gateway i)
  refine ⟨hs.settings_eq, hs.catalogs_eq, hs.ttl_eq, hs.capacity_eq, hworld, hopens, ?_, ?_,
    hs.apart, fun i caller hi => (hs.callers i caller hi).of_undergo hs.ttl_eq _, hs.faults⟩
  · simp only [hview]
    exact hs.nodup.sublist (List.filter_sublist.map CacheEntry.key)
  · intro e he
    simp only [hview] at he
    exact hs.owned e (List.mem_filter.1 he).1

/-- No other caller has the listing of a caller. -/
theorem alone (hs : Sound w settings h) (hi : h.callers[i]? = some caller)
    (hlisting : caller.listing? = some id) (j : Nat) (other : Caller)
    (hj : h.callers[j]? = some other) (hheld : other.listing? = some id) : j = i :=
  hs.apart j i other caller id hj hi hheld hlisting

/-- The next id is no caller's. -/
theorem next_not_held (hs : Sound w settings h) (hi : h.callers[i]? = some caller) :
    caller.listing? ≠ some (listingId (h.auditor.issued + 1)) := by
  intro hlisting
  obtain ⟨n, hn, hid⟩ := (hs.callers i caller hi).exists_listingId hlisting
  have := listingId_injective hid
  omega

/-- The cache shows nothing under the next id. -/
theorem next_not_shown (hs : Sound w settings h) :
    listingId (h.auditor.issued + 1) ∉
      (h.auditor.listings.view h.auditor.gateway.clock).map CacheEntry.key := by
  intro hkey
  obtain ⟨e, he, hid⟩ := List.mem_map.1 hkey
  obtain ⟨j, other, hj, -, hheld⟩ := hs.owned e he
  rw [hid] at hheld
  exact hs.next_not_held hj hheld

/-- The cache shows nothing of a caller who is not paging. -/
theorem new_not_shown (hs : Sound w settings h) (hi : h.callers[i]? = some caller)
    (hpaging : caller.isPaging = false) (hlisting : caller.listing? = some id) :
    id ∉ (h.auditor.listings.view h.auditor.gateway.clock).map CacheEntry.key := by
  intro hkey
  obtain ⟨e, he, rfl⟩ := List.mem_map.1 hkey
  obtain ⟨j, other, hj, hother, hheld⟩ := hs.owned e he
  have hsame := hs.apart i j caller other e.key hi hj hlisting hheld
  subst hsame
  rw [hi] at hj
  cases hj
  rw [hpaging] at hother
  cases hother

/-- Of the listings of others so many are kept that there is room for one more, as long as there are
not too many unfinished listings. -/
theorem room (hs : Sound w settings h) (hi : h.callers[i]? = some caller)
    (hbefore : ∀ other, caller.listing? = some other → other = id) (hpaging : caller'.isPaging)
    (hlisting : caller'.listing? = some id)
    (hfew : (h.callers.set i caller').countP Caller.isPaging ≤ listingCapacity) :
    ((h.auditor.listings.view h.auditor.gateway.clock).filter fun e => e.key ≠ id).length + 1 ≤
      listingCapacity := by
  have hlt := (List.getElem?_eq_some_iff.1 hi).1
  generalize hothers : ((h.auditor.listings.view h.auditor.gateway.clock).filter
    fun e => e.key ≠ id) = others
  have hnodup : (others.map CacheEntry.key ++ [id]).Nodup := by
    rw [← hothers, List.nodup_append]
    refine ⟨hs.nodup.sublist (List.filter_sublist.map CacheEntry.key), by simp, ?_⟩
    rintro key hkey _ hid rfl
    obtain ⟨e, he, rfl⟩ := List.mem_map.1 hkey
    exact of_decide_eq_true (List.mem_filter.1 he).2 (List.mem_singleton.1 hid)
  -- Each of these keys is the listing of a caller that is paging, and of no other.
  have hsubset : others.map CacheEntry.key ++ [id] ⊆
      (h.callers.set i caller').filterMap Caller.unfinished? := by
    refine List.append_subset.2 ⟨fun key hkey => ?_, fun key hid => ?_⟩
    · obtain ⟨e, he, rfl⟩ := List.mem_map.1 hkey
      rw [← hothers] at he
      obtain ⟨hview, hne⟩ := List.mem_filter.1 he
      obtain ⟨j, other, hj, hother, hheld⟩ := hs.owned e hview
      have hji : i ≠ j := by
        rintro rfl
        rw [hi] at hj
        cases hj
        exact of_decide_eq_true hne (hbefore e.key hheld)
      refine List.mem_filterMap.2 ⟨other, List.mem_of_getElem? (i := j) ?_, ?_⟩
      · rw [List.getElem?_set_ne hji, hj]
      · rw [Caller.unfinished?, if_pos hother, hheld]
    · rw [List.mem_singleton.1 hid]
      refine List.mem_filterMap.2 ⟨caller', List.mem_of_getElem? (i := i) ?_, ?_⟩
      · rw [List.getElem?_set_self hlt]
      · rw [Caller.unfinished?, if_pos hpaging, hlisting]
  have hcount : ((h.callers.set i caller').filterMap Caller.unfinished?).length ≤
      (h.callers.set i caller').countP Caller.isPaging := by
    rw [List.length_filterMap_eq_countP]
    refine List.countP_mono_left fun c _ hsome => ?_
    by_cases hc : c.isPaging
    · exact hc
    · simp [Caller.unfinished?, hc] at hsome
  have hlen := hnodup.length_le_of_subset hsubset
  rw [List.length_append, List.length_map] at hlen
  exact Nat.le_trans hlen (Nat.le_trans hcount hfew)

/-- A caller who has no listing asks for a first page. -/
theorem ask_new {kindName : String} (hs : Sound w settings h)
    (hi : h.callers[i]? = some { kindName }) : Sound w settings (h.ask i { kindName }) := by
  rw [Hall.ask]
  simp only [Caller.token?]
  cases hkind : catalogOf? (freshCatalogs settings) kindName with
  | none =>
    have hask : askPage kindName "" h.auditor = .error (.noCatalog kindName) h.auditor := by
      rw [← hs.catalogs_eq] at hkind
      simp only [askPage, catalog, bind_apply, get_apply, hkind]
      rfl
    simp only [hask]
    refine hs.tell fun f hfault => ?_
    cases hfault
  | some first =>
    have hcatalog : catalogOf? h.auditor.catalogs kindName = some first := by
      rw [hs.catalogs_eq, hkind]
    have hcatalogs : h.auditor.catalogs = freshCatalogs h.auditor.settings := by
      rw [hs.catalogs_eq, hs.settings_eq]
    have htoken : PageToken.decode "" = .ok {} := rfl
    have hask : askPage kindName "" h.auditor =
        .ok (halfway (listingId (h.auditor.issued + 1)) first {})
          ({ h.auditor with issued := h.auditor.issued + 1 }.behindAsk
            (listingId (h.auditor.issued + 1)) first) := by
      rw [askPage_apply hcatalog htoken, findListing]
      simp only [beginListing_apply hcatalog hcatalogs]
      rfl
    simp only [hask]
    have halike := TimedCache.alikeBut_update h.auditor.listings h.auditor.gateway.clock
      (listingId (h.auditor.issued + 1)) fun _ => first.prepare.2
    refine hs.set hi ⟨rfl, rfl, rfl, rfl, rfl, .refl _, Nat.le_succ _⟩ hs.inWorld hs.opens ?_ ?_ ?_
      halike ?_ (.opening hkind (Nat.le_refl _))
    · intro other hnone
      cases hnone
    · intro other hopening
      exact (Option.some.inj hopening).symm
    · exact fun j other hj hheld => absurd hheld (hs.next_not_held hj)
    · intro e he hid
      have hkey := TimedCache.key_mem_of_mem_view_update he
      exact absurd (hid ▸ hkey) hs.next_not_shown

/-- A caller who asks in time finds its listing. -/
theorem ask_paging {kindName token : String} {servedAt : Int} {found : List Resource}
    (hs : Sound w settings h)
    (hi : h.callers[i]? = some ⟨kindName, .paging token servedAt, none, found⟩)
    (hyoung : h.auditor.gateway.clock - servedAt < settings.listingTtl) :
    Sound w settings (h.ask i ⟨kindName, .paging token servedAt, none, found⟩) := by
  obtain ⟨first, c, t, n, hkind, hissued, htoken, hid, hprepared, hsame, hsofar, hkept, -⟩ :=
    (hs.callers i _ hi).of_paging
  have hshown := hkept hyoung
  have hcatalog : catalogOf? h.auditor.catalogs kindName = some first := by
    rw [hs.catalogs_eq, hkind]
  have hfound := resumeListing_of_kept (TimedCache.get?_of_mem_view hs.nodup hshown) hsame
  have hask : askPage kindName token h.auditor = .ok (halfway (listingId n) c t)
      ((h.auditor.behindLook (listingId n)).behindAsk (listingId n) c) := by
    rw [askPage_apply hcatalog htoken, findListing, hid]
    simp only [hfound]
    rfl
  -- What needs no server was given with the first page.
  have hown : c.prepare.2 = c := by rw [hprepared.prepare_eq]
  have hlisting : ∀ awaited, (⟨kindName, .paging token servedAt, awaited, found⟩ : Caller).listing? =
      some (listingId n) := by
    intro awaited
    simp only [Caller.listing?, htoken]
    exact hid
  simp only [Hall.ask, Caller.token?, hask]
  have htouch : TimedCache.AlikeBut (listingId n) h.auditor.gateway.clock h.auditor.listings
      (h.auditor.listings.touch h.auditor.gateway.clock (listingId n)) :=
    TimedCache.alikeBut_touch hs.nodup
  refine hs.set hi ⟨rfl, rfl, rfl, TimedCache.ttl_touch _ _ _, TimedCache.capacity_touch _ _ _,
    .refl _, Nat.le_refl _⟩ hs.inWorld hs.opens (Caller.eq_of_listing? (hlisting _))
    (Caller.eq_of_listing? (hlisting _)) (hs.alone hi (hlisting _))
    (htouch.trans (TimedCache.alikeBut_update _ _ _ fun _ => c.prepare.2))
    (fun _ _ _ => ⟨rfl, hlisting _⟩)
    (.paging hkind hissued htoken hid hprepared hsame hsofar ?_ ?_)
  · intro _
    have htouched : ⟨listingId n, c, servedAt⟩ ∈ (h.auditor.listings.touch
        h.auditor.gateway.clock (listingId n)).view h.auditor.gateway.clock :=
      (TimedCache.mem_view_touch hs.nodup).2 hshown
    have hstill := TimedCache.mem_view_update (f := fun _ => c.prepare.2) htouched
    rw [hown] at hstill
    simp only [behindAsk, hown]
    exact hstill
  · rintro p ⟨⟩
    rfl

/-- A caller asks. -/
theorem ask (hs : Sound w settings h) (hi : h.callers[i]? = some caller)
    (htimely : caller.InTime settings.listingTtl h.auditor.gateway.clock) :
    Sound w settings (h.ask i caller) := by
  cases hawaited : caller.awaited with
  | some p =>
    -- Who waits does not ask.
    have hsame : h.ask i caller = h := by
      rw [Hall.ask, hawaited]
    rw [hsame]
    exact hs
  | none =>
    cases hs.callers i caller hi with
    | idle => exact hs.ask_new hi
    | opening => cases hawaited
    | paging =>
      simp only at hawaited
      subst hawaited
      exact hs.ask_paging hi htimely
    | done => exact hs

/-! ## Answers -/

variable {first c : Catalog} {t : PageToken} {n : Nat} {l : Linked Catalog} {items : List Resource}

/-- What stands behind a page that came, and which page that is. -/
theorem behind_ok {page : Page Resource} (hs : Sound w settings h)
    (hrun : Catalog.complete t c.prepare.1 ⟨c.prepare.2, h.auditor.gateway⟩ = .ok page l) :
    l.gateway.In w ∧ l.gateway.OpensWithoutToken ∧
      Gateway.Steady h.auditor.gateway l.gateway ∧ c.turn? w t = some (page, l.own) := by
  obtain ⟨hopens, -⟩ := Catalog.risks_complete t c.prepare.1 ⟨c.prepare.2, h.auditor.gateway⟩
    hs.opens
  rw [hrun] at hopens
  have hsteady := ((Catalog.keeps_complete t c.prepare.1).of_ok hrun).gateway
  exact ⟨hs.inWorld.steady hsteady, hopens, hsteady,
    Catalog.page?_of_complete hs.inWorld hrun⟩

/-- A page that fails leaves a caller where it was before it asked. -/
theorem answer_error {e : Fault} (hs : Sound w settings h) (hi : h.callers[i]? = some caller)
    (hawaited : caller.awaited = some (halfway (listingId n) c t))
    (hlisting : caller.listing? = some (listingId n))
    (hrun : Catalog.complete t c.prepare.1 ⟨c.prepare.2, h.auditor.gateway⟩ = .error e l) :
    Sound w settings (h.answer i caller) := by
  obtain ⟨hopens, hfault⟩ := Catalog.risks_complete t c.prepare.1
    ⟨c.prepare.2, h.auditor.gateway⟩ hs.opens
  rw [hrun] at hopens
  have hsteady := ((Catalog.keeps_complete t c.prepare.1).of_error hrun).gateway
  have hworld := hs.inWorld.steady hsteady
  have hown := Catalog.own_eq_of_complete_error hrun
  have hfollows : Follows h.auditor (h.auditor.behindPage (listingId n) l) :=
    ⟨rfl, rfl, rfl, rfl, rfl, hsteady, Nat.le_refl _⟩
  have halike := TimedCache.alikeBut_update h.auditor.listings h.auditor.gateway.clock
    (listingId n) fun _ => l.own
  have hanswer : answerPage (halfway (listingId n) c t) h.auditor =
      .error e (h.auditor.behindPage (listingId n) l) := servePage_error hrun
  simp only [Hall.answer, hawaited, hanswer]
  have hstill : Sound w settings { h with
      auditor := h.auditor.behindPage (listingId n) l
      callers := h.callers.set i { caller with awaited := none } } := by
    cases hs.callers i caller hi with
    | idle => cases hawaited
    | opening hkind hissued =>
      -- A listing without a first page was never kept, and its caller begins another one.
      refine hs.set hi hfollows hworld hopens (Caller.eq_of_listing? hlisting) nofun
        (hs.alone hi hlisting) halike (fun e he hid => ?_) .idle
      have hkey := TimedCache.key_mem_of_mem_view_update he
      exact absurd (hid ▸ hkey) (hs.new_not_shown hi rfl hlisting)
    | @paging kindName token servedAt awaited found first kept t' m hkind hissued htoken hid
        hprepared hsame hsofar hkept hawaited' =>
      refine hs.set hi hfollows hworld hopens (Caller.eq_of_listing? hlisting)
        (Caller.eq_of_listing? hlisting) (hs.alone hi hlisting) halike
        (fun _ _ _ => ⟨rfl, hlisting⟩)
        (.paging hkind hissued htoken hid hprepared hsame hsofar ?_ nofun)
      -- The catalogue is put back as it was kept.
      have hpage := hawaited' _ hawaited
      have hid' : listingId n = listingId m := congrArg Awaited.id hpage
      have hsaved : l.own = kept := by
        rw [hown]
        show (halfway (listingId n) c t).catalog = kept
        rw [hpage, halfway, hprepared.prepare_eq]
      rw [hfollows.gateway.clock_eq, behindPage, hid', hsaved]
      exact fun hyoung => TimedCache.mem_view_update (f := fun _ => kept) (hkept hyoung)
    | done => cases hawaited
  exact hstill.tell (hfault e l hrun)

/-- A last page ends the listing of a caller, who has found all of it. -/
theorem answer_last (hs : Sound w settings h) (hi : h.callers[i]? = some caller)
    (hawaited : caller.awaited = some (halfway (listingId n) c t))
    (hlisting : caller.listing? = some (listingId n))
    (hkind : catalogOf? (freshCatalogs settings) caller.kindName = some first)
    (hsofar : HasFound w first caller.found t c)
    (hrun : Catalog.complete t c.prepare.1 ⟨c.prepare.2, h.auditor.gateway⟩ =
      .ok ⟨items, none⟩ l) : Sound w settings (h.answer i caller) := by
  obtain ⟨hworld, hopens, hsteady, hturn⟩ := hs.behind_ok hrun
  have hanswer : answerPage (halfway (listingId n) c t) h.auditor = .ok ⟨items, none⟩ _ :=
    servePage_last hrun
  simp only [Hall.answer, hawaited, hanswer]
  refine hs.set hi ⟨rfl, rfl, rfl, rfl, rfl, hsteady, Nat.le_refl _⟩ hworld hopens
    (Caller.eq_of_listing? hlisting) nofun (hs.alone hi hlisting)
    ((TimedCache.alikeBut_update _ _ _ _).trans (TimedCache.alikeBut_erase _ _ _))
    (fun e he hid => ?_) (.done hkind (hsofar.last hturn))
  simp only [behindPage, TimedCache.view_erase, List.mem_filter] at he
  exact absurd hid (of_decide_eq_true he.2)

/-- Any other page leads a caller on, and its listing is kept from then on anew. -/
theorem answer_more {next : String} (hs : Sound w settings h) (hi : h.callers[i]? = some caller)
    (hawaited : caller.awaited = some (halfway (listingId n) c t))
    (hlisting : caller.listing? = some (listingId n)) (hissued : n ≤ h.auditor.issued)
    (hkind : catalogOf? (freshCatalogs settings) caller.kindName = some first)
    (hsame : c.kind = first.kind) (hsofar : HasFound w first caller.found t c)
    (hrun : Catalog.complete t c.prepare.1 ⟨c.prepare.2, h.auditor.gateway⟩ =
      .ok ⟨items, some next⟩ l)
    (hfew : (h.answer i caller).unfinished ≤ listingCapacity) :
    Sound w settings (h.answer i caller) := by
  obtain ⟨hworld, hopens, hsteady, hturn⟩ := hs.behind_ok hrun
  obtain ⟨t', ht'⟩ := Catalog.hasReadableNext_of_turn? hturn next rfl
  have hanswer : answerPage (halfway (listingId n) c t) h.auditor = .ok _ _ :=
    servePage_more hrun ht'
  simp only [Hall.answer, hawaited, hanswer] at hfew ⊢
  have hmarked := PageToken.decode_encode { t' with listing := some (listingId n) }
  have hlisting' : (caller.receive l.gateway.clock ⟨items, some (PageToken.encode
      { t' with listing := some (listingId n) })⟩).listing? = some (listingId n) := by
    simp only [Caller.listing?, Caller.receive, hmarked]
    rfl
  -- With room for it, the page puts no listing of others out of the cache.
  have hroom := hs.room hi (Caller.eq_of_listing? hlisting) rfl hlisting' hfew
  rw [← TimedCache.filter_view_update _ _ _ fun _ => l.own, ← hs.capacity_eq] at hroom
  have halike : TimedCache.AlikeBut (listingId n) h.auditor.gateway.clock h.auditor.listings
      ((h.auditor.listings.update (listingId n) fun _ => l.own).insert l.gateway.clock
        (listingId n) l.own) := by
    rw [hsteady.clock_eq]
    exact (TimedCache.alikeBut_update _ _ _ _).trans (TimedCache.alikeBut_insert hroom)
  refine hs.set hi ⟨rfl, rfl, rfl, rfl, rfl, hsteady, Nat.le_refl _⟩ hworld hopens
    (Caller.eq_of_listing? hlisting) (Caller.eq_of_listing? hlisting') (hs.alone hi hlisting)
    halike (fun _ _ _ => ⟨rfl, hlisting'⟩)
    (.paging hkind hissued hmarked rfl (Catalog.isPrepared_of_turn? hturn)
      ((Catalog.kind_of_turn? hturn).trans hsame) (hsofar.more hturn ht' _)
      (fun hyoung => ?_) nofun)
  -- The next page can be asked for in time, so the time for it is more than none.
  have httl : 0 < h.auditor.listings.ttl := by
    rw [hs.ttl_eq]
    simp only at hyoung
    omega
  simp only [behindPage, hsteady.clock_eq]
  exact TimedCache.mem_view_insert_self httl

/-- A caller is answered. -/
theorem answer (hs : Sound w settings h) (hi : h.callers[i]? = some caller)
    (hfew : (h.answer i caller).unfinished ≤ listingCapacity) :
    Sound w settings (h.answer i caller) := by
  cases hawaited : caller.awaited with
  | none =>
    have hsame : h.answer i caller = h := by
      rw [Hall.answer, hawaited]
    rw [hsame]
    exact hs
  | some p =>
    obtain ⟨first, c, t, n, rfl, hissued, hkind, hsame, hsofar, hlisting⟩ :=
      (hs.callers i caller hi).exists_halfway hawaited
    cases hrun : Catalog.complete t c.prepare.1 ⟨c.prepare.2, h.auditor.gateway⟩ with
    | error e l => exact hs.answer_error hi hawaited hlisting hrun
    | ok page l =>
      obtain ⟨items, next⟩ := page
      cases next with
      | none => exact hs.answer_last hi hawaited hlisting hkind hsofar hrun
      | some next =>
        exact hs.answer_more hi hawaited hlisting hissued hkind hsame hsofar hrun hfew

/-! ## Runs -/

theorem step (hs : Sound w settings h) {e : Event} (htimely : h.IsTimely e)
    (hfew : (h.step e).unfinished ≤ listingCapacity) : Sound w settings (h.step e) := by
  cases e with
  | ask i =>
    rw [Hall.step]
    cases hi : h.callers[i]? with
    | none => exact hs
    | some caller =>
      have hyoung := htimely caller (by rw [hi]; rfl)
      rw [hs.settings_eq] at hyoung
      exact hs.ask hi hyoung
  | answer i =>
    rw [Hall.step] at hfew ⊢
    cases hi : h.callers[i]? with
    | none => exact hs
    | some caller =>
      rw [hi] at hfew
      exact hs.answer hi hfew
  | wait seconds => exact hs.undergo ⟨hs.inWorld.1, hs.inWorld.2, hs.inWorld.3⟩ hs.opens
  | arm failure => exact hs.undergo ⟨hs.inWorld.1, hs.inWorld.2, hs.inWorld.3⟩ hs.opens

theorem run (hs : Sound w settings h) {events : List Event} (horderly : h.IsOrderly events) :
    Sound w settings (h.run events) := by
  induction events generalizing h with
  | nil => exact hs
  | cons e events ih =>
    obtain ⟨htimely, hfew, hrest⟩ := horderly
    exact ih (hs.step htimely hfew) hrest

end Sound

theorem sound_start {settings : Settings} {g : Gateway} (hopens : g.OpensWithoutToken)
    (kindNames : List String) :
    Sound ⟨g.server, settings.pageSize, g.now⟩ settings (start settings g kindNames) := by
  have hnew : ∀ (i : Nat) (caller : Caller),
      (start settings g kindNames).callers[i]? = some caller →
        ∃ kindName, caller = { kindName } := by
    intro i caller hi
    obtain ⟨kindName, -, rfl⟩ := List.mem_map.1 (List.mem_of_getElem? hi)
    exact ⟨kindName, rfl⟩
  refine ⟨rfl, rfl, rfl, rfl, ⟨rfl, rfl, rfl⟩, hopens, List.nodup_nil, nofun, ?_, ?_, nofun⟩
  · intro i j caller other id hi _ hlisting
    obtain ⟨kindName, rfl⟩ := hnew i caller hi
    cases hlisting
  · intro i caller hi
    obtain ⟨kindName, rfl⟩ := hnew i caller hi
    exact .idle

/-- Callers list any kinds, and ask and are answered in any order; time passes, and calls may be
made to fail. As long as nobody asks too late for a next page, and there are never too many
unfinished listings, nobody is refused a token, and whoever has come to the end has found, in the
same order, what a new auditor has of that kind in a snapshot; of users and groups nobody is found
twice. -/
theorem found_of_run (settings : Settings) (g : Gateway) (hopens : g.OpensWithoutToken)
    (kindNames : List String) (events : List Event)
    (horderly : (start settings g kindNames).IsOrderly events) :
    let h := (start settings g kindNames).run events
    (∀ e ∈ h.faults, ∀ f, e ≠ .token f) ∧
      ∀ caller ∈ h.callers, caller.progress = .done →
        ∃ c, catalogOf? (freshCatalogs settings) caller.kindName = some c ∧
          (∀ (g' : Gateway) s b, g'.server = g.server → g'.now = g.now →
            snapshot (ofGateway settings g') = .ok s b → caller.found = s.resourcesOf c.kind) ∧
          (c.kind = .user ∨ c.kind = .group → caller.found.Nodup) := by
  intro h
  have hs := (sound_start hopens kindNames).run horderly
  refine ⟨hs.faults, fun caller hmem hdone => ?_⟩
  obtain ⟨i, hi⟩ := List.mem_iff_getElem?.1 hmem
  cases hs.callers i caller hi with
  | idle => cases hdone
  | opening => cases hdone
  | paging => cases hdone
  | @done kindName found first hkind hrest =>
    refine ⟨first, hkind, fun g' s b hserver hnow hsnapshot => ?_, fun hprincipal => ?_⟩
    · have hworld : (ofGateway settings g').gateway.In
          ⟨g.server, settings.pageSize, g.now⟩ := ⟨hserver, rfl, hnow⟩
      exact hrest.unique (rest_of_snapshot hworld rfl hsnapshot (List.mem_of_find?_eq_some hkind))
    · obtain ⟨listing, rfl⟩ := Catalog.exists_principals_of_kind hprincipal
      exact hrest.nodup

/-! ## Two callers and a failure -/

/-- A server with a page of role bindings and a page of cluster role bindings. Both name bob. -/
def userServer : Server where
  roles _ := .ok {}
  clusterRoles _ := .ok {}
  roleBindings _ :=
    .ok { items := [.ok ⟨"readers", "team-a", ⟨"Role", "reader", ""⟩,
            [⟨"User", "alice", "", ""⟩, ⟨"User", "bob", "", ""⟩]⟩] }
  clusterRoleBindings _ :=
    .ok { items := [.ok ⟨"viewers", ⟨"ClusterRole", "view", ""⟩,
            [⟨"User", "bob", "", ""⟩, ⟨"User", "carol", "", ""⟩]⟩] }
  objects _ _ := .ok {}
  role _ _ := .error (.api (some 404) none)
  clusterRole _ := .error (.api (some 404) none)
  pageLimit := 2

/-- A gateway to that server. -/
def userGateway : Gateway where
  server := userServer
  pageSize := 1

/-- Two callers who are about to list users. -/
def twoCallers : Hall :=
  start {} userGateway [ResourceKind.user.id, ResourceKind.user.id]

/-- They take turns. The second page of the first caller fails when half of the time for it has
passed, and comes when it asks again. -/
def takingTurns : List Event := [
  .ask 0, .ask 1, .answer 1, .answer 0, .wait 300, .ask 0, .ask 1,
  .arm ⟨"cluster_role_bindings", .transport "reset", 0⟩, .answer 0, .answer 1,
  .wait 299, .ask 0, .answer 0]

/-- Each is told of no bad token, and finds the users of a snapshot, once each. -/
theorem found_of_run_takingTurns :
    twoCallers.IsOrderly takingTurns ∧ (twoCallers.run takingTurns).faults.length = 1 ∧
      (∀ e ∈ (twoCallers.run takingTurns).faults, ∀ f, e ≠ .token f) ∧
      ∃ s b, snapshot (ofGateway {} userGateway) = .ok s b ∧
        (s.resourcesOf .user).map (·.ref.object) = ["alice", "bob", "carol"] ∧
        ∀ caller ∈ (twoCallers.run takingTurns).callers,
          caller.found = s.resourcesOf .user ∧ caller.found.Nodup := by
  have hrun : twoCallers.IsOrderly takingTurns ∧
      (twoCallers.run takingTurns).faults.length = 1 ∧
      ∀ caller ∈ (twoCallers.run takingTurns).callers,
        caller.kindName = ResourceKind.user.id ∧ caller.progress = .done := by decide +kernel
  obtain ⟨horderly, hfaults, hdone⟩ := hrun
  have hcatalog : catalogOf? (freshCatalogs {}) ResourceKind.user.id =
      some (.principals { principal := .user }) := rfl
  have husers : (((snapshot.outcome (ofGateway {} userGateway)).1.toOption).map
      fun s => (s.resourcesOf .user).map (·.ref.object)) = some ["alice", "bob", "carol"] := by
    decide +kernel
  obtain ⟨s, hs, hnames⟩ := Option.map_eq_some_iff.1 husers
  obtain ⟨b, hsnapshot⟩ : ∃ b, snapshot (ofGateway {} userGateway) = .ok s b :=
    ⟨_, eq_ok_of_outcome hs⟩
  obtain ⟨htokens, hfound⟩ := found_of_run {} userGateway nofun
    [ResourceKind.user.id, ResourceKind.user.id] takingTurns horderly
  refine ⟨horderly, hfaults, htokens, s, b, hsnapshot, hnames, fun caller hmem => ?_⟩
  obtain ⟨hkind, hprogress⟩ := hdone caller hmem
  obtain ⟨c, hc, hlisted, honce⟩ := hfound caller hmem hprogress
  rw [hkind, hcatalog] at hc
  obtain rfl := Option.some.inj hc
  exact ⟨hlisted userGateway s b rfl rfl hsnapshot, honce (.inl rfl)⟩

end Hall

end ClusterAccess.Auditor
