/-
  ClusterAccess.Proofs.ListingLedger

  Who is served with which listing. A ledger keeps a ticket for every listing that
  was ever begun: its catalogue as new, the pages that it was asked for, the time of
  the last one served, and whether the listing is running, finished, or dropped to
  make room. The ledger forgets nothing, and knows nothing of the cache of the
  auditor; whatever calls come, with whatever tokens, the auditor serves exactly the
  tickets of the ledger that are running and not too old.
-/
import ClusterAccess.Proofs.ListingCalls

namespace ClusterAccess.Auditor

open ClusterAccess.Action
open Gateway (Incident)

/-! ## Tickets -/

/-- How a listing stands. -/
inductive ListingStage
  | running
  /-- Its last page was given. -/
  | finished
  /-- It was the one used longest ago when room was needed. -/
  | dropped
  deriving DecidableEq

/-- A listing that was begun. -/
structure Ticket where
  id : String
  /-- The catalogue that was made for the first page. -/
  first : Catalog
  /-- The tokens that the catalogue was asked with, each over the gateway of its time. -/
  calls : List (String × Gateway) := []
  /-- When a page was given last. -/
  servedAt : Int
  stage : ListingStage := .running

/-- A catalogue behind one page more, however that ended. -/
def turned (c : Catalog) (call : String × Gateway) : Catalog :=
  ((Catalog.list call.1).outcome ⟨c, call.2⟩).2.own

namespace Ticket

/-- The kind that is listed. -/
def kind (t : Ticket) : ResourceKind :=
  t.first.kind

/-- The catalogue of the listing, behind its own pages and no others. -/
def catalog (t : Ticket) : Catalog :=
  t.calls.foldl turned t.first

/-- Whether the listing goes on, and its last page was given less than `ttl` seconds ago. -/
def isLive (ttl : Nat) (now : Int) (t : Ticket) : Bool :=
  t.stage = .running ∧ now - t.servedAt < ttl

/-- The ticket behind one page more: a page without a next one finishes the listing, any other page
renews it, and a page that fails does neither. -/
def behind (t : Ticket) (call : String × Gateway) : Ticket :=
  match Catalog.list call.1 ⟨t.catalog, call.2⟩ with
  | .error _ _ => { t with calls := t.calls ++ [call] }
  | .ok ⟨_, none⟩ _ => { t with calls := t.calls ++ [call], stage := .finished }
  | .ok ⟨_, some _⟩ _ => { t with calls := t.calls ++ [call], servedAt := call.2.clock }

/-- What the cache of the auditor has of a ticket. -/
def entry (t : Ticket) : CacheEntry String Catalog :=
  ⟨t.id, t.catalog, t.servedAt⟩

end Ticket

/-! ## The ledger -/

/-- The tickets that can be served at a time. -/
def live (ttl : Nat) (now : Int) (tickets : List Ticket) : List Ticket :=
  tickets.filter (Ticket.isLive ttl now)

/-- The first ticket that could be served is dropped. -/
def dropFirst (ttl : Nat) (now : Int) : List Ticket → List Ticket
  | [] => []
  | t :: rest =>
    if t.isLive ttl now then { t with stage := .dropped } :: rest
    else t :: dropFirst ttl now rest

/-- Where as many tickets can be served as there may be, the one used longest ago is dropped. -/
def makeRoom (ttl : Nat) (now : Int) (tickets : List Ticket) : List Ticket :=
  if (live ttl now tickets).length < listingCapacity then tickets else dropFirst ttl now tickets

/-- The tickets behind a call, those used longest ago first. A token without a listing begins a new
one, which has a ticket as soon as its first page was given. Any other token uses the ticket of its
listing, and turns a page if the ticket can be served and is of the kind asked for. -/
def attend (ttl : Nat) (g : Gateway) (newId : String) (c : Catalog) (text : String) (t : PageToken)
    (tickets : List Ticket) : List Ticket :=
  match t.listing with
  | none =>
    let ticket : Ticket := { id := newId, first := c, servedAt := g.clock }
    match Catalog.list text ⟨c, g⟩ with
    | .error _ _ => tickets
    | .ok ⟨_, none⟩ _ => tickets ++ [ticket.behind (text, g)]
    | .ok ⟨_, some _⟩ _ => makeRoom ttl g.clock tickets ++ [ticket.behind (text, g)]
  | some id =>
    (tickets.filter fun ticket => ticket.id ≠ id) ++
      (tickets.filter fun ticket => ticket.id = id).map fun ticket =>
        if ticket.kind = c.kind ∧ ticket.isLive ttl g.clock then ticket.behind (text, g) else ticket

/-! ## Histories -/

/-- One thing that happens: a call for a page, or an incident outside of the auditor. -/
inductive Turn
  | call (kindName token : String)
  | outside (i : Incident)

/-- An auditor, with the tickets of the listings that it has begun. -/
structure History where
  auditor : Auditor
  tickets : List Ticket := []

namespace History

/-- A new auditor has begun no listing. -/
def start (settings : Settings) (g : Gateway) : History where
  auditor := ofGateway settings g

/-- The ledger behind a call. -/
def ticketsBehind (h : History) (kindName token : String) : List Ticket :=
  match catalogOf? (freshCatalogs h.auditor.settings) kindName, PageToken.decode token with
  | some c, .ok t => attend h.auditor.settings.listingTtl h.auditor.gateway
      (listingId (h.auditor.issued + 1)) c token t h.tickets
  | _, _ => h.tickets

/-- What is there after one more turn. -/
def step (h : History) : Turn → History
  | .call kindName token =>
    { auditor := ((listPage kindName token).outcome h.auditor).2
      tickets := h.ticketsBehind kindName token }
  | .outside i => { h with auditor := { h.auditor with gateway := h.auditor.gateway.undergo i } }

/-- What is there after these turns. -/
def run (h : History) (turns : List Turn) : History :=
  turns.foldl step h

/-- The listing of a kind and an id can be served from this ticket. -/
def Serves (h : History) (kind : ResourceKind) (id : String) (ticket : Ticket) : Prop :=
  ticket ∈ h.tickets ∧ ticket.id = id ∧ ticket.kind = kind ∧
    ticket.isLive h.auditor.settings.listingTtl h.auditor.gateway.clock

end History

/-! ## What a ledger shows -/

variable {ttl : Nat} {now later : Int} {tickets : List Ticket} {id : String}

theorem isLive_iff {t : Ticket} :
    t.isLive ttl now ↔ t.stage = .running ∧ now - t.servedAt < ttl := by
  rw [Ticket.isLive, decide_eq_true_iff]

theorem catalog_turned (t : Ticket) (call : String × Gateway) :
    { t with calls := t.calls ++ [call] }.catalog = turned t.catalog call := by
  simp only [Ticket.catalog, List.foldl_append, List.foldl_cons, List.foldl_nil]

/-- Pages do not change what a listing lists. -/
theorem kind_turned (c : Catalog) (call : String × Gateway) : (turned c call).kind = c.kind :=
  ((Catalog.keeps_list call.1).outcome ⟨c, call.2⟩).kind_eq

theorem kind_catalog (t : Ticket) : t.catalog.kind = t.kind := by
  obtain ⟨id, first, calls, servedAt, stage⟩ := t
  simp only [Ticket.catalog, Ticket.kind]
  induction calls generalizing first with
  | nil => rfl
  | cons call calls ih => rw [List.foldl_cons, ih, kind_turned]

@[simp] theorem id_behind (t : Ticket) (call : String × Gateway) : (t.behind call).id = t.id := by
  rw [Ticket.behind]
  split <;> rfl

@[simp] theorem first_behind (t : Ticket) (call : String × Gateway) :
    (t.behind call).first = t.first := by
  rw [Ticket.behind]
  split <;> rfl

theorem catalog_behind (t : Ticket) (call : String × Gateway) :
    (t.behind call).catalog = turned t.catalog call := by
  rw [← catalog_turned, Ticket.behind]
  split <;> rfl

/-- Time only takes tickets away. -/
theorem live_of_le (h : now ≤ later) :
    live ttl later tickets = (live ttl now tickets).filter fun t => later < t.servedAt + ttl := by
  rw [live, live, List.filter_filter]
  refine List.filter_congr fun t _ => ?_
  rw [Bool.eq_iff_iff, Bool.and_eq_true, isLive_iff, isLive_iff, decide_eq_true_iff]
  constructor
  · rintro ⟨hstage, hyoung⟩
    exact ⟨by omega, hstage, by omega⟩
  · rintro ⟨hyoung, hstage, -⟩
    exact ⟨hstage, by omega⟩

/-- Who makes room takes the first ticket that can be served from those that can. -/
theorem live_dropFirst :
    live ttl now (dropFirst ttl now tickets) = (live ttl now tickets).tail := by
  induction tickets with
  | nil => rfl
  | cons t rest ih =>
    rw [dropFirst]
    by_cases hlive : t.isLive ttl now
    · have hdropped : Ticket.isLive ttl now { t with stage := .dropped } = false := by
        simp [Ticket.isLive]
      rw [if_pos hlive, live, live, List.filter_cons_of_neg (by simp [hdropped]),
        List.filter_cons_of_pos hlive, List.tail_cons]
    · rw [if_neg hlive, live, live, List.filter_cons_of_neg hlive, List.filter_cons_of_neg hlive]
      exact ih

theorem map_id_dropFirst : (dropFirst ttl now tickets).map Ticket.id = tickets.map Ticket.id := by
  induction tickets with
  | nil => rfl
  | cons t rest ih =>
    rw [dropFirst]
    split
    · rfl
    · rw [List.map_cons, List.map_cons, ih]

/-- Room is made for one more. -/
theorem live_makeRoom (h : (live ttl now tickets).length ≤ listingCapacity) :
    live ttl now (makeRoom ttl now tickets) = (live ttl now tickets).drop
      ((live ttl now tickets).length + 1 - listingCapacity) := by
  rw [makeRoom]
  split
  next hroom =>
    have hnone : (live ttl now tickets).length + 1 - listingCapacity = 0 := by omega
    rw [hnone, List.drop_zero]
  next hfull =>
    have hone : (live ttl now tickets).length + 1 - listingCapacity = 1 := by omega
    rw [hone, live_dropFirst, List.drop_one]

theorem map_id_makeRoom : (makeRoom ttl now tickets).map Ticket.id = tickets.map Ticket.id := by
  rw [makeRoom]
  split
  · rfl
  · exact map_id_dropFirst

theorem live_filter (p : Ticket → Bool) :
    live ttl now (tickets.filter p) = (live ttl now tickets).filter p := by
  rw [live, live, List.filter_filter, List.filter_filter]
  exact List.filter_congr fun t _ => Bool.and_comm _ _

theorem live_append (more : List Ticket) :
    live ttl now (tickets ++ more) = live ttl now tickets ++ live ttl now more :=
  List.filter_append ..

/-- A ticket that can be served is used by a call, and is the last one behind it. -/
theorem attend_of_mem {g : Gateway} {newId text : String} {c : Catalog} {t : PageToken}
    (hlisting : t.listing = some id) (hnodup : (tickets.map Ticket.id).Nodup) {ticket : Ticket}
    (hmem : ticket ∈ tickets) (hid : ticket.id = id) (hkind : ticket.kind = c.kind)
    (hlive : ticket.isLive ttl g.clock) :
    attend ttl g newId c text t tickets =
      (tickets.filter fun ticket => ticket.id ≠ id) ++ [ticket.behind (text, g)] := by
  have hfound := Contents.find?_of_nodup hnodup hmem
  rw [hid] at hfound
  rw [attend, hlisting]
  simp only [filter_eq_of_find?_eq_some hnodup hfound, List.map_cons, List.map_nil, hkind, hlive,
    and_self, if_true]

/-- A call that no ticket can be served for only changes which one was used last. -/
theorem attend_of_forall {g : Gateway} {newId text : String} {c : Catalog} {t : PageToken}
    (hlisting : t.listing = some id)
    (h : ∀ ticket ∈ tickets, ticket.id = id → ticket.kind = c.kind →
      ticket.isLive ttl g.clock = false) :
    attend ttl g newId c text t tickets =
      (tickets.filter fun ticket => ticket.id ≠ id) ++
        tickets.filter fun ticket => ticket.id = id := by
  rw [attend, hlisting]
  have hsame : ∀ ticket ∈ tickets.filter fun ticket => ticket.id = id,
      (if ticket.kind = c.kind ∧ ticket.isLive ttl g.clock then ticket.behind (text, g)
        else ticket) = ticket := by
    intro ticket hticket
    rw [List.mem_filter, decide_eq_true_iff] at hticket
    refine if_neg fun hserved => ?_
    rw [h ticket hticket.1 hticket.2 hserved.1] at hserved
    exact Bool.false_ne_true hserved.2
  exact congrArg _ ((List.map_congr_left hsame).trans (List.map_id' _))

/-! ## A ticket behind a page -/

section Behind

variable {t : Ticket} {text : String} {g : Gateway} {l : Linked Catalog}

theorem turned_ok {c : Catalog} {page : Page Resource}
    (h : Catalog.list text ⟨c, g⟩ = .ok page l) : turned c (text, g) = l.own := by
  rw [turned, outcome, h]

theorem turned_error {c : Catalog} {e : Fault}
    (h : Catalog.list text ⟨c, g⟩ = .error e l) : turned c (text, g) = l.own := by
  rw [turned, outcome, h]

theorem behind_error {e : Fault} (h : Catalog.list text ⟨t.catalog, g⟩ = .error e l) :
    t.behind (text, g) = { t with calls := t.calls ++ [(text, g)] } := by
  rw [Ticket.behind, h]

theorem behind_last {items : List Resource}
    (h : Catalog.list text ⟨t.catalog, g⟩ = .ok ⟨items, none⟩ l) :
    t.behind (text, g) = { t with calls := t.calls ++ [(text, g)], stage := .finished } := by
  rw [Ticket.behind, h]

theorem behind_more {items : List Resource} {next : String}
    (h : Catalog.list text ⟨t.catalog, g⟩ = .ok ⟨items, some next⟩ l) :
    t.behind (text, g) = { t with calls := t.calls ++ [(text, g)], servedAt := g.clock } := by
  rw [Ticket.behind, h]

/-- A page that fails leaves a ticket as live as it was. -/
theorem live_behind_error {e : Fault} (h : Catalog.list text ⟨t.catalog, g⟩ = .error e l)
    (hlive : t.isLive ttl now) :
    (live ttl now [t.behind (text, g)]).map Ticket.entry = [⟨t.id, l.own, t.servedAt⟩] := by
  have hbehind : (t.behind (text, g)).isLive ttl now := by
    rw [behind_error h]
    exact hlive
  rw [live, List.filter_cons_of_pos hbehind, List.filter_nil, List.map_singleton, Ticket.entry,
    catalog_behind, turned_error h, behind_error h]

/-- A last page leaves nothing to serve. -/
theorem live_behind_last {items : List Resource}
    (h : Catalog.list text ⟨t.catalog, g⟩ = .ok ⟨items, none⟩ l) :
    live ttl now [t.behind (text, g)] = [] := by
  rw [live, behind_last h, List.filter_cons_of_neg (by simp [Ticket.isLive]), List.filter_nil]

/-- Any other page makes a running ticket as young as can be. -/
theorem live_behind_more {items : List Resource} {next : String}
    (h : Catalog.list text ⟨t.catalog, g⟩ = .ok ⟨items, some next⟩ l)
    (hrunning : t.stage = .running) :
    (live ttl g.clock [t.behind (text, g)]).map Ticket.entry =
      if 0 < ttl then [⟨t.id, l.own, g.clock⟩] else [] := by
  have hiff : (t.behind (text, g)).isLive ttl g.clock ↔ 0 < ttl := by
    rw [isLive_iff, behind_more h]
    simp only [hrunning, true_and]
    omega
  have hentry : (t.behind (text, g)).entry = ⟨t.id, l.own, g.clock⟩ := by
    rw [Ticket.entry, catalog_behind, turned_ok h, behind_more h]
  by_cases httl : 0 < ttl
  · rw [if_pos httl, live, List.filter_cons_of_pos (hiff.2 httl), List.filter_nil,
      List.map_singleton, hentry]
  · rw [if_neg httl, live, List.filter_cons_of_neg (fun hlive => httl (hiff.1 hlive)),
      List.filter_nil, List.map_nil]

end Behind

/-! ## What a call does to all tickets -/

section Attend

variable {g : Gateway} {newId text : String} {c : Catalog} {t : PageToken}

/-- What is true of a dropped ticket is true of all when room was made. -/
theorem forall_makeRoom {P : Ticket → Prop} (htickets : ∀ ticket ∈ tickets, P ticket)
    (hdrop : ∀ ticket, P ticket → P { ticket with stage := .dropped }) :
    ∀ ticket ∈ makeRoom ttl now tickets, P ticket := by
  have hdropped : ∀ ticket ∈ dropFirst ttl now tickets, P ticket := by
    induction tickets with
    | nil => exact htickets
    | cons first rest ih =>
      obtain ⟨hfirst, hrest⟩ := List.forall_mem_cons.1 htickets
      rw [dropFirst]
      split
      · exact List.forall_mem_cons.2 ⟨hdrop first hfirst, hrest⟩
      · exact List.forall_mem_cons.2 ⟨hfirst, ih hrest⟩
  rw [makeRoom]
  split
  · exact htickets
  · exact hdropped

/-- Only a ticket that can be served makes room. -/
theorem mem_makeRoom {ticket : Ticket} (hmem : ticket ∈ tickets)
    (hdead : ¬ ticket.isLive ttl now) : ticket ∈ makeRoom ttl now tickets := by
  have hdropped : ticket ∈ dropFirst ttl now tickets := by
    induction tickets with
    | nil => exact hmem
    | cons first rest ih =>
      rw [dropFirst]
      rcases List.mem_cons.1 hmem with rfl | hrest
      · rw [if_neg hdead]
        exact List.mem_cons_self
      · split
        · exact List.mem_cons_of_mem _ hrest
        · exact List.mem_cons_of_mem _ (ih hrest)
  rw [makeRoom]
  split
  · exact hmem
  · exact hdropped

/-- What is true of tickets however they are dropped and used stays true behind a call. -/
theorem forall_attend {P : Ticket → Prop} (htickets : ∀ ticket ∈ tickets, P ticket)
    (hnew : t.listing = none → P { id := newId, first := c, servedAt := g.clock })
    (hbehind : ∀ ticket, P ticket → P (ticket.behind (text, g)))
    (hdrop : ∀ ticket, P ticket → P { ticket with stage := .dropped }) :
    ∀ ticket ∈ attend ttl g newId c text t tickets, P ticket := by
  rw [attend]
  cases hlisting : t.listing with
  | none =>
    have hticket := hbehind _ (hnew hlisting)
    simp only
    split
    · exact htickets
    · exact List.forall_mem_append.2 ⟨htickets, List.forall_mem_singleton.2 hticket⟩
    · exact List.forall_mem_append.2
        ⟨forall_makeRoom htickets hdrop, List.forall_mem_singleton.2 hticket⟩
  | some id =>
    refine List.forall_mem_append.2 ⟨fun ticket hticket => ?_, fun ticket hticket => ?_⟩
    · exact htickets ticket (List.mem_filter.1 hticket).1
    · obtain ⟨old, hold, rfl⟩ := List.mem_map.1 hticket
      have hP := htickets old (List.mem_filter.1 hold).1
      split
      · exact hbehind old hP
      · exact hP

/-- A call for a page of a listing opens no other. -/
theorem map_id_attend_of_some (hlisting : t.listing = some id) :
    ((attend ttl g newId c text t tickets).map Ticket.id).Perm (tickets.map Ticket.id) := by
  have hsame : ∀ ticket : Ticket, (if ticket.kind = c.kind ∧ ticket.isLive ttl g.clock then
      ticket.behind (text, g) else ticket).id = ticket.id := by
    intro ticket
    split
    · exact id_behind ticket (text, g)
    · rfl
  rw [attend, hlisting]
  simp only [List.map_append, List.map_map, Function.comp_def, hsame]
  rw [← List.map_append]
  exact (filter_ne_append_filter_eq_perm Ticket.id id tickets).map Ticket.id

/-- A call without a listing opens one with a new id, or none. -/
theorem map_id_attend_of_none (hlisting : t.listing = none) :
    (attend ttl g newId c text t tickets).map Ticket.id = tickets.map Ticket.id ∨
      (attend ttl g newId c text t tickets).map Ticket.id = tickets.map Ticket.id ++ [newId] := by
  rw [attend, hlisting]
  simp only
  split
  · exact .inl rfl
  · refine .inr ?_
    rw [List.map_append, List.map_singleton, id_behind]
  · refine .inr ?_
    rw [List.map_append, List.map_singleton, id_behind, map_id_makeRoom]

/-- A ticket that is not running is what it was. -/
theorem mem_attend_of_over {ticket : Ticket} (hmem : ticket ∈ tickets)
    (hover : ticket.stage ≠ .running) : ticket ∈ attend ttl g newId c text t tickets := by
  have hdead : ¬ ticket.isLive ttl g.clock := fun hlive => hover (isLive_iff.1 hlive).1
  rw [attend]
  cases t.listing with
  | none =>
    simp only
    split
    · exact hmem
    · exact List.mem_append_left _ hmem
    · exact List.mem_append_left _ (mem_makeRoom hmem hdead)
  | some id =>
    by_cases hid : ticket.id = id
    · refine List.mem_append_right _ (List.mem_map.2 ⟨ticket, ?_, if_neg fun h => hdead h.2⟩)
      exact List.mem_filter.2 ⟨hmem, decide_eq_true hid⟩
    · exact List.mem_append_left _ (List.mem_filter.2 ⟨hmem, decide_eq_true hid⟩)

end Attend

end ClusterAccess.Auditor
