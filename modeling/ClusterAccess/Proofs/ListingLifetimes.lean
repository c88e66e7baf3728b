/-
  ClusterAccess.Proofs.ListingLifetimes

  How long a token of a listing is served. The cache of the auditor always shows
  the tickets of the ledger that can be served; so a call that names a listing is
  served from its ticket or refused, and the ledger says which.
-/
import ClusterAccess.Proofs.ListingLedger

namespace ClusterAccess.Auditor

open ClusterAccess.Action
open Gateway (Incident)

variable {ttl : Nat} {now : Int} {tickets : List Ticket} {id : String}

/-! ## The cache and the ledger -/

/-- The cache of an auditor keeps listings for this long, and no more than there may be. -/
structure Fits (ttl : Nat) (a : Auditor) : Prop where
  ttl_eq : a.listings.ttl = ttl
  capacity_eq : a.listings.capacity = listingCapacity
  few : (a.listings.view a.gateway.clock).length ≤ listingCapacity

namespace Fits

variable {a : Auditor} {c : Catalog} {text : String}

/-- Time only takes entries away. -/
theorem outside (hf : Fits ttl a) (i : Incident) :
    Fits ttl { a with gateway := a.gateway.undergo i } := by
  refine ⟨hf.ttl_eq, hf.capacity_eq, ?_⟩
  show (a.listings.view (a.gateway.undergo i).clock).length ≤ listingCapacity
  rw [TimedCache.view_of_le _ (Gateway.clock_le_undergo a.gateway i)]
  exact Nat.le_trans (List.length_filter_le ..) hf.few

theorem behindLook (hf : Fits ttl a)
    (hnodup : ((a.listings.view a.gateway.clock).map CacheEntry.key).Nodup) :
    Fits ttl (a.behindLook id) := by
  refine ⟨?_, ?_, ?_⟩
  · exact (TimedCache.ttl_touch _ _ _).trans hf.ttl_eq
  · exact (TimedCache.capacity_touch _ _ _).trans hf.capacity_eq
  · show ((a.listings.touch a.gateway.clock id).view a.gateway.clock).length ≤ listingCapacity
    rw [TimedCache.view_touch hnodup, (TimedCache.usedLast_perm id _).length_eq]
    exact hf.few

/-- However a page ends, there are no more entries than there may be. -/
theorem servePage (hf : Fits ttl a) :
    Fits ttl ((Auditor.servePage id c (Catalog.list text)).outcome a).2 := by
  cases hrun : Catalog.list text ⟨c, a.gateway⟩ with
  | error e l =>
    have hclock := ((Catalog.keeps_list text).of_error hrun).gateway.clock_eq
    rw [outcome, servePage_error hrun]
    refine ⟨hf.ttl_eq, hf.capacity_eq, ?_⟩
    show ((a.listings.update id fun _ => l.own).view l.gateway.clock).length ≤ listingCapacity
    rw [hclock, TimedCache.view_update, List.length_map]
    exact hf.few
  | ok page l =>
    obtain ⟨items, next⟩ := page
    have hclock := ((Catalog.keeps_list text).of_ok hrun).gateway.clock_eq
    cases next with
    | none =>
      rw [outcome, servePage_last hrun]
      refine ⟨hf.ttl_eq, hf.capacity_eq, ?_⟩
      show (((a.listings.update id fun _ => l.own).erase id).view l.gateway.clock).length ≤
        listingCapacity
      rw [hclock, TimedCache.view_erase_update]
      exact Nat.le_trans (List.length_filter_le ..) hf.few
    | some next =>
      obtain ⟨t, ht⟩ := Catalog.hasReadableNext_of_list hrun next rfl
      rw [outcome, servePage_more hrun ht]
      refine ⟨hf.ttl_eq, hf.capacity_eq, ?_⟩
      refine Nat.le_trans (List.length_filter_le ..) ?_
      rw [← hf.capacity_eq]
      refine TimedCache.length_entries_insert_le _ ?_ _ _ _
      show 0 < a.listings.capacity
      rw [hf.capacity_eq]
      decide

end Fits

/-- The cache shows the tickets that can be served, in the order of their last use. -/
structure Shows (ttl : Nat) (a : Auditor) (tickets : List Ticket) : Prop where
  fits : Fits ttl a
  view_eq : a.listings.view a.gateway.clock = (live ttl a.gateway.clock tickets).map Ticket.entry
  nodup : (tickets.map Ticket.id).Nodup

namespace Shows

variable {a : Auditor} {c kept : Catalog} {newId text : String} {t : PageToken} {ticket : Ticket}

/-- Time takes the same from both. -/
theorem outside (hs : Shows ttl a tickets) (i : Incident) :
    Shows ttl { a with gateway := a.gateway.undergo i } tickets := by
  have hclock := Gateway.clock_le_undergo a.gateway i
  refine ⟨hs.fits.outside i, ?_, hs.nodup⟩
  show a.listings.view (a.gateway.undergo i).clock =
    (live ttl (a.gateway.undergo i).clock tickets).map Ticket.entry
  rw [TimedCache.view_of_le _ hclock, hs.view_eq, List.filter_map, live_of_le hclock]
  simp only [Function.comp_def, TimedCache.isLive, Ticket.entry, hs.fits.ttl_eq]

theorem nodup_live (hs : Shows ttl a tickets) : ((live ttl now tickets).map Ticket.id).Nodup :=
  hs.nodup.sublist (List.filter_sublist.map Ticket.id)

theorem nodup_view (hs : Shows ttl a tickets) :
    ((a.listings.view a.gateway.clock).map CacheEntry.key).Nodup := by
  rw [hs.view_eq, List.map_map]
  exact hs.nodup_live

/-- No more tickets can be served than there may be. -/
theorem few_live (hs : Shows ttl a tickets) :
    (live ttl a.gateway.clock tickets).length ≤ listingCapacity := by
  have hfew := hs.fits.few
  rwa [hs.view_eq, List.length_map] at hfew

/-- The entries under other keys are those of the other tickets. -/
theorem filter_view (hs : Shows ttl a tickets) (id : String) :
    (a.listings.view a.gateway.clock).filter (fun e => e.key ≠ id) =
      (live ttl a.gateway.clock (tickets.filter fun ticket => ticket.id ≠ id)).map
        Ticket.entry := by
  rw [hs.view_eq, live_filter, List.filter_map]
  rfl

/-- What is kept under an id is the catalogue of the ticket that can be served under it. -/
theorem get?_eq_some_iff (hs : Shows ttl a tickets) :
    a.listings.get? a.gateway.clock id = some kept ↔
      ∃ ticket ∈ tickets, ticket.id = id ∧ ticket.isLive ttl a.gateway.clock ∧
        ticket.catalog = kept := by
  have hfind : (a.listings.view a.gateway.clock).find? (fun e => e.key = id) =
      ((live ttl a.gateway.clock tickets).find? fun ticket => ticket.id = id).map
        Ticket.entry := by
    rw [hs.view_eq, List.find?_map]
    rfl
  rw [TimedCache.get?_eq, hfind, Option.map_map, Option.map_eq_some_iff]
  constructor
  · rintro ⟨ticket, hfound, rfl⟩
    obtain ⟨hmem, hlive⟩ := List.mem_filter.1 (List.mem_of_find?_eq_some hfound)
    exact ⟨ticket, hmem, by simpa using List.find?_some hfound, hlive, rfl⟩
  · rintro ⟨ticket, hmem, rfl, hlive, rfl⟩
    exact ⟨ticket, Contents.find?_of_nodup hs.nodup_live (List.mem_filter.2 ⟨hmem, hlive⟩), rfl⟩

/-- A refused look is use, of the entry and of the ticket. -/
theorem look (hs : Shows ttl a tickets) (hlisting : t.listing = some id)
    (hnone : ∀ ticket ∈ tickets, ticket.id = id → ticket.kind = c.kind →
      ticket.isLive ttl a.gateway.clock = false) :
    Shows ttl (a.behindLook id) (attend ttl a.gateway newId c text t tickets) := by
  refine ⟨hs.fits.behindLook hs.nodup_view, ?_, (map_id_attend_of_some hlisting).nodup_iff.2
    hs.nodup⟩
  show (a.listings.touch a.gateway.clock id).view a.gateway.clock =
    (live ttl a.gateway.clock _).map Ticket.entry
  rw [TimedCache.view_touch hs.nodup_view, TimedCache.usedLast, hs.view_eq,
    attend_of_forall hlisting hnone, live_append, live_filter, live_filter, List.map_append,
    List.filter_map, List.filter_map]
  rfl

/-- A first page makes a ticket, and an entry for it if it has a next page. -/
theorem open_new (hs : Shows ttl a tickets) (hlisting : t.listing = none)
    (hnew : newId ∉ tickets.map Ticket.id) :
    Shows ttl ((servePage newId c (Catalog.list text)).outcome a).2
      (attend ttl a.gateway newId c text t tickets) := by
  have hnodup : ((attend ttl a.gateway newId c text t tickets).map Ticket.id).Nodup := by
    have hids : (attend ttl a.gateway newId c text t tickets).map Ticket.id = _ ∨ _ :=
      map_id_attend_of_none hlisting
    rcases hids with hids | hids
    · rw [hids]
      exact hs.nodup
    · rw [hids, List.nodup_append]
      refine ⟨hs.nodup, by simp, ?_⟩
      rintro old hold _ hid rfl
      exact hnew (List.mem_singleton.1 hid ▸ hold)
  -- Nothing is kept under a new id, so all entries stand under other keys.
  have hothers : tickets.filter (fun ticket => ticket.id ≠ newId) = tickets := by
    rw [List.filter_eq_self]
    intro ticket hticket
    rw [decide_eq_true_iff]
    rintro rfl
    exact hnew (List.mem_map_of_mem hticket)
  have hview := hs.filter_view newId
  rw [hothers] at hview
  have hsame := hview.trans hs.view_eq.symm
  refine ⟨hs.fits.servePage, ?_, hnodup⟩
  cases hrun : Catalog.list text ⟨c, a.gateway⟩ with
  | error e l =>
    have hclock : l.gateway.clock = a.gateway.clock :=
      ((Catalog.keeps_list text).of_error hrun).gateway.clock_eq
    have htickets : attend ttl a.gateway newId c text t tickets = tickets := by
      rw [attend, hlisting]
      simp only [hrun]
    rw [outcome, servePage_error hrun, htickets]
    show (a.listings.update newId fun _ => l.own).view l.gateway.clock =
      (live ttl l.gateway.clock tickets).map Ticket.entry
    rw [hclock, TimedCache.view_update, ← hsame,
      TimedCache.map_update_filter _ newId fun _ => l.own, hview]
  | ok page l =>
    obtain ⟨items, next⟩ := page
    have hclock : l.gateway.clock = a.gateway.clock :=
      ((Catalog.keeps_list text).of_ok hrun).gateway.clock_eq
    let first : Ticket := { id := newId, first := c, servedAt := a.gateway.clock }
    have hrun' : Catalog.list text ⟨first.catalog, a.gateway⟩ = .ok ⟨items, next⟩ l := hrun
    cases next with
    | none =>
      have htickets : attend ttl a.gateway newId c text t tickets =
          tickets ++ [first.behind (text, a.gateway)] := by
        rw [attend, hlisting]
        simp only [hrun]
        rfl
      rw [outcome, servePage_last hrun, htickets]
      show ((a.listings.update newId fun _ => l.own).erase newId).view l.gateway.clock =
        (live ttl l.gateway.clock _).map Ticket.entry
      rw [hclock, TimedCache.view_erase_update, hview, live_append, live_behind_last hrun',
        List.append_nil]
    | some next =>
      obtain ⟨t', ht'⟩ := Catalog.hasReadableNext_of_list hrun next rfl
      have hrunning : first.stage = .running := rfl
      have htickets : attend ttl a.gateway newId c text t tickets =
          makeRoom ttl a.gateway.clock tickets ++ [first.behind (text, a.gateway)] := by
        rw [attend, hlisting]
        simp only [hrun]
        rfl
      rw [outcome, servePage_more hrun ht', htickets]
      show ((a.listings.update newId fun _ => l.own).insert l.gateway.clock newId l.own).view
        l.gateway.clock = (live ttl l.gateway.clock _).map Ticket.entry
      rw [hclock, TimedCache.view_insert_update, TimedCache.view_insert, hview, live_append,
        List.map_append, live_behind_more hrun' hrunning, live_makeRoom hs.few_live, List.map_drop,
        List.length_map, hs.fits.capacity_eq, hs.fits.ttl_eq]

/-- A served page is a page more on its ticket. -/
theorem serve (hs : Shows ttl a tickets) (hlisting : t.listing = some id)
    (hmem : ticket ∈ tickets) (hid : ticket.id = id) (hkind : ticket.kind = c.kind)
    (hlive : ticket.isLive ttl a.gateway.clock) :
    Shows ttl ((servePage id ticket.catalog (Catalog.list text)).outcome (a.behindLook id)).2
      (attend ttl a.gateway newId c text t tickets) := by
  have hfits : Fits ttl (a.behindLook id) := hs.fits.behindLook hs.nodup_view
  have hothers := hs.filter_view id
  -- The look puts the entry of the ticket last, and no other ticket has its id.
  have hlook : (a.behindLook id).listings.view a.gateway.clock =
      (a.listings.view a.gateway.clock).filter (fun e => e.key ≠ id) ++ [ticket.entry] := by
    have hown : (live ttl a.gateway.clock tickets).filter (fun ticket => ticket.id = id) =
        [ticket] := by
      refine filter_eq_of_find?_eq_some hs.nodup_live ?_
      rw [← hid]
      exact Contents.find?_of_nodup hs.nodup_live (List.mem_filter.2 ⟨hmem, hlive⟩)
    have hentry : (a.listings.view a.gateway.clock).filter (fun e => e.key = id) =
        [ticket.entry] := by
      rw [hs.view_eq, List.filter_map, ← List.map_singleton, ← hown]
      rfl
    rw [← hentry]
    exact TimedCache.view_touch hs.nodup_view
  have hrest : ((a.behindLook id).listings.view a.gateway.clock).filter (fun e => e.key ≠ id) =
      (a.listings.view a.gateway.clock).filter fun e => e.key ≠ id := by
    rw [hlook, List.filter_append, List.filter_filter,
      List.filter_cons_of_neg (by simp [Ticket.entry, hid])]
    simp
  have hroom : ((a.listings.view a.gateway.clock).filter fun e => e.key ≠ id).length + 1 ≤
      listingCapacity := by
    have hlen : ((a.behindLook id).listings.view a.gateway.clock).length ≤ listingCapacity :=
      hfits.few
    rw [hlook, List.length_append] at hlen
    exact hlen
  have htickets : attend ttl a.gateway newId c text t tickets = _ :=
    attend_of_mem hlisting hs.nodup hmem hid hkind hlive
  refine ⟨hfits.servePage, ?_, (map_id_attend_of_some hlisting).nodup_iff.2 hs.nodup⟩
  rw [htickets]
  cases hrun : Catalog.list text ⟨ticket.catalog, a.gateway⟩ with
  | error e l =>
    have hclock : l.gateway.clock = a.gateway.clock :=
      ((Catalog.keeps_list text).of_error hrun).gateway.clock_eq
    rw [outcome, servePage_error (a := a.behindLook id) hrun]
    show ((a.behindLook id).listings.update id fun _ => l.own).view l.gateway.clock =
      (live ttl l.gateway.clock _).map Ticket.entry
    rw [hclock, TimedCache.view_update, hlook, List.map_append,
      TimedCache.map_update_filter _ id fun _ => l.own, hothers, live_append, List.map_append,
      live_behind_error hrun hlive, List.map_singleton]
    simp [Ticket.entry, hid]
  | ok page l =>
    obtain ⟨items, next⟩ := page
    have hclock : l.gateway.clock = a.gateway.clock :=
      ((Catalog.keeps_list text).of_ok hrun).gateway.clock_eq
    cases next with
    | none =>
      rw [outcome, servePage_last (a := a.behindLook id) hrun]
      show (((a.behindLook id).listings.update id fun _ => l.own).erase id).view l.gateway.clock =
        (live ttl l.gateway.clock _).map Ticket.entry
      rw [hclock, TimedCache.view_erase_update, hrest, hothers, live_append,
        live_behind_last hrun, List.append_nil]
    | some next =>
      obtain ⟨t', ht'⟩ := Catalog.hasReadableNext_of_list hrun next rfl
      rw [outcome, servePage_more (a := a.behindLook id) hrun ht']
      show (((a.behindLook id).listings.update id fun _ => l.own).insert l.gateway.clock id
        l.own).view l.gateway.clock = (live ttl l.gateway.clock _).map Ticket.entry
      rw [hclock, TimedCache.view_insert_update, TimedCache.view_insert, hrest, live_append,
        List.map_append, ← hothers, live_behind_more hrun (isLive_iff.1 hlive).1, hid,
        hfits.capacity_eq, Nat.sub_eq_zero_of_le hroom, List.drop_zero, hfits.ttl_eq]

end Shows

/-! ## What is known of a history -/

namespace History

/-- What the auditor keeps is what the ledger says, and the ledger is in order: every listing was
begun in its own time, under an id that had been given out, with a new catalogue. -/
structure Sound (settings : Settings) (h : History) : Prop where
  settings_eq : h.auditor.settings = settings
  catalogs_eq : h.auditor.catalogs = freshCatalogs settings
  shows : Shows settings.listingTtl h.auditor h.tickets
  issued : ∀ ticket ∈ h.tickets, ∃ n ≤ h.auditor.issued, ticket.id = listingId n
  fresh : ∀ ticket ∈ h.tickets, ticket.first ∈ freshCatalogs settings

variable {settings : Settings} {h : History} {kindName token id : String} {c : Catalog}
  {t : PageToken}

theorem sound_start (settings : Settings) (g : Gateway) : Sound settings (start settings g) where
  settings_eq := rfl
  catalogs_eq := rfl
  shows := ⟨⟨rfl, rfl, Nat.zero_le _⟩, rfl, List.nodup_nil⟩
  issued _ ht := absurd ht List.not_mem_nil
  fresh _ ht := absurd ht List.not_mem_nil

namespace Sound

theorem outside (hs : Sound settings h) (i : Incident) : Sound settings (h.step (.outside i)) :=
  ⟨hs.settings_eq, hs.catalogs_eq, hs.shows.outside i, hs.issued, hs.fresh⟩

/-- The next id is new. -/
theorem next_not_mem (hs : Sound settings h) :
    listingId (h.auditor.issued + 1) ∉ h.tickets.map Ticket.id := by
  intro hmem
  obtain ⟨ticket, hticket, hid⟩ := List.mem_map.1 hmem
  obtain ⟨n, hn, hold⟩ := hs.issued ticket hticket
  have := listingId_injective (hold.symm.trans hid)
  omega

/-- A call that is read turns the ledger as its token says. -/
theorem ticketsBehind_eq (hs : Sound settings h)
    (hkind : catalogOf? (freshCatalogs settings) kindName = some c)
    (htoken : PageToken.decode token = .ok t) :
    h.ticketsBehind kindName token = attend settings.listingTtl h.auditor.gateway
      (listingId (h.auditor.issued + 1)) c token t h.tickets := by
  simp only [ticketsBehind, hs.settings_eq, hkind, htoken]

theorem catalogOf?_eq (hs : Sound settings h) {found : Option Catalog}
    (hkind : catalogOf? (freshCatalogs settings) kindName = found) :
    catalogOf? h.auditor.catalogs kindName = found := by
  rw [hs.catalogs_eq, hkind]

theorem catalogs_eq_fresh (hs : Sound settings h) :
    h.auditor.catalogs = freshCatalogs h.auditor.settings := by
  rw [hs.catalogs_eq, hs.settings_eq]

/-- What the cache finds for a call is the catalogue of the ticket that it is served from. -/
theorem kept_iff (hs : Sound settings h) {kept : Catalog} :
    (h.auditor.listings.get? h.auditor.gateway.clock id = some kept ∧ kept.kind = c.kind) ↔
      ∃ ticket, h.Serves c.kind id ticket ∧ ticket.catalog = kept := by
  rw [hs.shows.get?_eq_some_iff]
  constructor
  · rintro ⟨⟨ticket, hmem, hid, hlive, rfl⟩, hkind⟩
    refine ⟨ticket, ⟨hmem, hid, (kind_catalog ticket).symm.trans hkind, ?_⟩, rfl⟩
    rw [hs.settings_eq]
    exact hlive
  · rintro ⟨ticket, ⟨hmem, hid, hkind, hlive⟩, rfl⟩
    rw [hs.settings_eq] at hlive
    exact ⟨⟨ticket, hmem, hid, hlive, rfl⟩, (kind_catalog ticket).trans hkind⟩

/-- A call that cannot be read changes nothing at all. -/
theorem step_of_unread (hs : Sound settings h)
    (hunread : ∀ c t, catalogOf? (freshCatalogs settings) kindName = some c →
      PageToken.decode token ≠ .ok t) :
    h.step (.call kindName token) = h := by
  have htickets : h.ticketsBehind kindName token = h.tickets := by
    rw [ticketsBehind, hs.settings_eq]
    split
    next c t hkind htoken => exact absurd htoken (hunread c t hkind)
    next => rfl
  have hauditor : ((listPage kindName token).outcome h.auditor).2 = h.auditor := by
    cases hkind : catalogOf? (freshCatalogs settings) kindName with
    | none => rw [outcome, listPage_of_noCatalog (hs.catalogOf?_eq hkind)]
    | some c =>
      cases htoken : PageToken.decode token with
      | error e => rw [outcome, listPage_of_unreadable (hs.catalogOf?_eq hkind) htoken]
      | ok t => exact absurd htoken (hunread c t hkind)
  rw [step, htickets, hauditor]

/-- A call that is read leaves the cache and the ledger alike, whatever its token says. -/
theorem shows_call (hs : Sound settings h)
    (hkind : catalogOf? (freshCatalogs settings) kindName = some c)
    (htoken : PageToken.decode token = .ok t) :
    Shows settings.listingTtl ((listPage kindName token).outcome h.auditor).2
      (h.ticketsBehind kindName token) := by
  have hcatalog := hs.catalogOf?_eq hkind
  rw [hs.ticketsBehind_eq hkind htoken]
  cases hlisting : t.listing with
  | none =>
    have hissued : Shows settings.listingTtl { h.auditor with issued := h.auditor.issued + 1 }
        h.tickets := ⟨⟨hs.shows.fits.ttl_eq, hs.shows.fits.capacity_eq, hs.shows.fits.few⟩,
      hs.shows.view_eq, hs.shows.nodup⟩
    rw [outcome, listPage_of_new hcatalog hs.catalogs_eq_fresh htoken hlisting]
    exact hissued.open_new hlisting hs.next_not_mem
  | some id =>
    by_cases hserves : ∃ ticket, h.Serves c.kind id ticket
    · obtain ⟨ticket, hserves⟩ := hserves
      obtain ⟨hkept, hsame⟩ := hs.kept_iff.2 ⟨ticket, hserves, rfl⟩
      obtain ⟨hmem, hid, hkind, hlive⟩ := hserves
      rw [hs.settings_eq] at hlive
      rw [outcome, listPage_of_kept hcatalog htoken hlisting hkept hsame]
      exact hs.shows.serve hlisting hmem hid hkind hlive
    · -- A refused look is use all the same.
      rw [outcome, listPage_of_not_kept hcatalog htoken hlisting fun kept hkept hsame =>
        hserves ((hs.kept_iff.1 ⟨hkept, hsame⟩).imp fun _ => And.left)]
      refine hs.shows.look hlisting fun ticket hmem hid hkind => ?_
      rw [← Bool.not_eq_true]
      intro hlive
      rw [← hs.settings_eq] at hlive
      exact hserves ⟨ticket, hmem, hid, hkind, hlive⟩

theorem call (hs : Sound settings h) (kindName token : String) :
    Sound settings (h.step (.call kindName token)) := by
  by_cases hread : ∃ c t, catalogOf? (freshCatalogs settings) kindName = some c ∧
      PageToken.decode token = .ok t
  · obtain ⟨c, t, hkind, htoken⟩ := hread
    have hfollows := (keeps_listPage kindName token).outcome h.auditor
    refine ⟨hfollows.settings_eq.trans hs.settings_eq, hfollows.catalogs_eq.trans hs.catalogs_eq,
      hs.shows_call hkind htoken, ?_, ?_⟩
    · show ∀ ticket ∈ h.ticketsBehind kindName token, _
      rw [hs.ticketsBehind_eq hkind htoken]
      refine forall_attend ?_ ?_ ?_ fun _ hissued => hissued
      · intro ticket hmem
        obtain ⟨n, hn, hid⟩ := hs.issued ticket hmem
        exact ⟨n, Nat.le_trans hn hfollows.issued_le, hid⟩
      · intro hlisting
        refine ⟨_, ?_, rfl⟩
        show _ ≤ ((listPage kindName token).outcome h.auditor).2.issued
        rw [outcome, listPage_of_new (hs.catalogOf?_eq hkind) hs.catalogs_eq_fresh htoken
          hlisting]
        exact ((keeps_servePage _ c (Catalog.keeps_list token)).outcome
          { h.auditor with issued := h.auditor.issued + 1 }).issued_le
      · intro ticket hissued
        rw [id_behind]
        exact hissued
    · show ∀ ticket ∈ h.ticketsBehind kindName token, _
      rw [hs.ticketsBehind_eq hkind htoken]
      refine forall_attend hs.fresh (fun _ => List.mem_of_find?_eq_some hkind) ?_
        fun _ hfresh => hfresh
      intro ticket hfresh
      rw [first_behind]
      exact hfresh
  · rw [hs.step_of_unread fun c t hkind htoken => hread ⟨c, t, hkind, htoken⟩]
    exact hs

theorem run (hs : Sound settings h) (turns : List Turn) : Sound settings (h.run turns) := by
  induction turns generalizing h with
  | nil => exact hs
  | cons turn turns ih =>
    cases turn with
    | call kindName token => exact ih (hs.call kindName token)
    | outside i => exact ih (hs.outside i)

end Sound

/-! ## What becomes of a token -/

/-- A call is served from a ticket. It is a page of the ticket's catalogue, which is the one made
for its first page behind the pages of this listing and no others, and it is a page more on this
ticket only. -/
structure ServedFrom (h : History) (kindName token : String) (ticket : Ticket) : Prop where
  call_eq : listPage kindName token h.auditor =
    servePage ticket.id ticket.catalog (Catalog.list token) (h.auditor.behindLook ticket.id)
  tickets_eq : (h.step (.call kindName token)).tickets =
    (h.tickets.filter fun other => other.id ≠ ticket.id) ++
      [ticket.behind (token, h.auditor.gateway)]

/-- A call is refused. The server is not asked, and whatever can be served can be served still. -/
structure Refused (h : History) (kindName token : String) (fault : Fault) : Prop where
  fault_eq : ((listPage kindName token).outcome h.auditor).1 = .error fault
  gateway_eq : ((listPage kindName token).outcome h.auditor).2.gateway = h.auditor.gateway
  serves_iff : ∀ kind id ticket,
    (h.step (.call kindName token)).Serves kind id ticket ↔ h.Serves kind id ticket

namespace Sound

/-- What can be served is served. -/
theorem servedFrom (hs : Sound settings h)
    (hkind : catalogOf? (freshCatalogs settings) kindName = some c)
    (htoken : PageToken.decode token = .ok t) (hlisting : t.listing = some id) {ticket : Ticket}
    (hserves : h.Serves c.kind id ticket) : h.ServedFrom kindName token ticket := by
  obtain ⟨hkept, hsame⟩ := hs.kept_iff.2 ⟨ticket, hserves, rfl⟩
  obtain ⟨hmem, rfl, hsort, hlive⟩ := hserves
  rw [hs.settings_eq] at hlive
  refine ⟨listPage_of_kept (hs.catalogOf?_eq hkind) htoken hlisting hkept hsame, ?_⟩
  show h.ticketsBehind kindName token = _
  rw [hs.ticketsBehind_eq hkind htoken]
  exact attend_of_mem hlisting hs.shows.nodup hmem rfl hsort hlive

/-- What cannot be served is refused. -/
theorem refused (hs : Sound settings h)
    (hkind : catalogOf? (freshCatalogs settings) kindName = some c)
    (htoken : PageToken.decode token = .ok t) (hlisting : t.listing = some id)
    (hserves : ¬ ∃ ticket, h.Serves c.kind id ticket) :
    h.Refused kindName token (.token (.notOpen c.kind)) := by
  have hcall := listPage_of_not_kept (hs.catalogOf?_eq hkind) htoken hlisting
    fun kept hkept hsame => hserves ((hs.kept_iff.1 ⟨hkept, hsame⟩).imp fun _ => And.left)
  refine ⟨?_, ?_, fun kind other ticket => ?_⟩
  · rw [outcome, hcall]
  · rw [outcome, hcall]
    rfl
  · -- The ledger has the same tickets, if in another order, and no time has passed.
    have htickets : (h.ticketsBehind kindName token).Perm h.tickets := by
      rw [hs.ticketsBehind_eq hkind htoken, attend_of_forall hlisting]
      · exact filter_ne_append_filter_eq_perm Ticket.id id h.tickets
      · intro old hmem hid hsort
        rw [← Bool.not_eq_true, ← hs.settings_eq]
        exact fun hlive => hserves ⟨old, hmem, hid, hsort, hlive⟩
    have hsettings := (hs.call kindName token).settings_eq.trans hs.settings_eq.symm
    have hclock := ((keeps_listPage kindName token).outcome h.auditor).gateway.clock_eq
    rw [Serves, Serves, hsettings]
    show ticket ∈ h.ticketsBehind kindName token ∧ _ ↔ _
    rw [htickets.mem_iff]
    show _ ∧ _ ∧ _ ∧ ticket.isLive _
      ((listPage kindName token).outcome h.auditor).2.gateway.clock ↔ _
    rw [hclock]

end Sound

/-- A ticket that is not running stays in the ledger as it is. -/
theorem mem_run_of_over {ticket : Ticket} (hmem : ticket ∈ h.tickets)
    (hover : ticket.stage ≠ .running) (turns : List Turn) : ticket ∈ (h.run turns).tickets := by
  induction turns generalizing h with
  | nil => exact hmem
  | cons turn turns ih =>
    refine ih ?_
    cases turn with
    | call kindName token =>
      show ticket ∈ h.ticketsBehind kindName token
      rw [ticketsBehind]
      split
      · exact mem_attend_of_over hmem hover
      · exact hmem
    | outside i => exact hmem

/-- Whatever calls, incidents and failures have come, with whatever tokens: a call whose token names
a listing finds a catalogue exactly if the ledger has a ticket of that id and kind that can be
served, and then it is the catalogue of this ticket and the call is a page of it. Otherwise the call
is refused. Every catalogue was made for its own listing, no two listings have the same id, and none
is served again once it has been finished. -/
theorem listPage_of_run (g : Gateway) (turns : List Turn)
    (hkind : catalogOf? (freshCatalogs settings) kindName = some c)
    (htoken : PageToken.decode token = .ok t) (hlisting : t.listing = some id) :
    let h := (start settings g).run turns
    (∀ kept, (∃ a, resumeListing c.kind id h.auditor = .ok (id, kept) a) ↔
        ∃ ticket, h.Serves c.kind id ticket ∧ ticket.catalog = kept) ∧
      (∀ ticket, h.Serves c.kind id ticket → h.ServedFrom kindName token ticket) ∧
      ((¬ ∃ ticket, h.Serves c.kind id ticket) →
        h.Refused kindName token (.token (.notOpen c.kind))) ∧
      (∀ ticket ∈ h.tickets, ticket.first ∈ freshCatalogs settings) ∧
      (h.tickets.map Ticket.id).Nodup ∧
      ∀ ticket ∈ h.tickets, ticket.stage = .finished →
        ∀ more kind other, ¬ (h.run more).Serves kind ticket.id other := by
  intro h
  have hs : Sound settings h := (sound_start settings g).run turns
  refine ⟨fun kept => ?_, fun ticket => hs.servedFrom hkind htoken hlisting,
    hs.refused hkind htoken hlisting, hs.fresh, hs.shows.nodup, ?_⟩
  · rw [resumeListing_ok_iff]
    exact hs.kept_iff
  · intro ticket hmem hfinished more kind other hserves
    have hover : ticket.stage ≠ .running := by
      rw [hfinished]
      decide
    -- The only ticket with this id is the one that was finished.
    obtain ⟨hother, hid, -, hlive⟩ := hserves
    have hnodup := (hs.run more).shows.nodup
    have hfound := Contents.find?_of_nodup hnodup hother
    rw [hid, Contents.find?_of_nodup hnodup (mem_run_of_over hmem hover more)] at hfound
    cases hfound
    exact hover (isLive_iff.1 hlive).1

/-! ## Ten minutes -/

/-- The first page of a listing of users, and the time that passes behind it. -/
def usersThenWait (seconds : Nat) : List Turn :=
  [.call ResourceKind.user.id "", .outside (.wait seconds)]

/-- The token of the second page: the bindings across the cluster. -/
def usersNext : PageToken where
  phase := some .clusterRoleBindings
  listing := some (listingId 1)

/-- A server with no bindings, where a listing of users has two empty pages. -/
def emptyGateway : Gateway where
  server := {
    roles _ := .ok {}
    clusterRoles _ := .ok {}
    roleBindings _ := .ok {}
    clusterRoleBindings _ := .ok {}
    objects _ _ := .ok {}
    role _ _ := .error (.api (some 404) none)
    clusterRole _ := .error (.api (some 404) none)
    pageLimit := 1 }
  pageSize := 1

/-- Whether the listing of users can be served. -/
def servesUsers (h : History) : Bool :=
  h.tickets.any fun ticket => ticket.id = listingId 1 ∧ ticket.kind = .user ∧
    ticket.isLive h.auditor.settings.listingTtl h.auditor.gateway.clock

theorem servesUsers_iff :
    h.servesUsers = true ↔ ∃ ticket, h.Serves .user (listingId 1) ticket := by
  simp only [servesUsers, List.any_eq_true, decide_eq_true_iff, Serves]

/-- A next page can be asked for until ten minutes have passed. -/
theorem listPage_of_run_wait :
    let young := (start {} emptyGateway).run (usersThenWait 599)
    let old := (start {} emptyGateway).run (usersThenWait 600)
    (∃ ticket, young.Serves .user (listingId 1) ticket ∧
        young.ServedFrom ResourceKind.user.id usersNext.encode ticket) ∧
      old.Refused ResourceKind.user.id usersNext.encode (.token (.notOpen .user)) := by
  intro young old
  have hkind : catalogOf? (freshCatalogs {}) ResourceKind.user.id =
      some (.principals { principal := .user }) := by rfl
  have htoken := PageToken.decode_encode usersNext
  obtain ⟨-, hserved, -⟩ :=
    listPage_of_run emptyGateway (usersThenWait 599) hkind htoken rfl
  obtain ⟨-, -, hrefused, -⟩ :=
    listPage_of_run emptyGateway (usersThenWait 600) hkind htoken rfl
  have hyoung : young.servesUsers = true := by decide +kernel
  have hold : old.servesUsers = false := by decide +kernel
  rw [servesUsers_iff] at hyoung
  rw [← Bool.not_eq_true, servesUsers_iff] at hold
  obtain ⟨ticket, hserves⟩ := hyoung
  exact ⟨⟨ticket, hserves, hserved ticket hserves⟩, hrefused hold⟩

end History

end ClusterAccess.Auditor
