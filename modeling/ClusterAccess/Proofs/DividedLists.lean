/-
  ClusterAccess.Proofs.DividedLists

  Lists that a server divides into pages in whatever way it likes: pages may be
  long, short or empty, and objects on them unreadable. Following a list from page
  to page comes to the same as reading all of its objects at once, for the server's
  own list as for one that is made of it page by page.
-/
import ClusterAccess.Proofs.Outcomes
import ClusterAccess.Proofs.StaticServer

namespace ClusterAccess

open ClusterAccess.Action

/-! ## Divisions -/

namespace Server

variable {α : Type} {serve : ListCall → Answer α} {limit : Int}

/-- From a place on, a list is served in this many pages, its objects readable or not. -/
inductive Divides (serve : ListCall → Answer α) (limit : Int) :
    Nat → Option String → List (Manifest.Reading α) → Prop
  | last {place next : Option String} {objects : List (Manifest.Reading α)} :
    serve ⟨limit, place⟩ = .ok ⟨objects, next⟩ → Gateway.placeOf next = none →
      Divides serve limit 1 place objects
  | more {n : Nat} {place next : Option String} {behind : String}
      {objects rest : List (Manifest.Reading α)} :
    serve ⟨limit, place⟩ = .ok ⟨objects, next⟩ → Gateway.placeOf next = some behind →
      Divides serve limit n (some behind) rest →
        Divides serve limit (n + 1) place (objects ++ rest)

end Server

/-! ## Answers -/

/-- No failed call is taken for a list that never ends. -/
theorem Fault.ofFailure_ne_endless (about : CallSubject) (failure : CallFailure) :
    ofFailure about failure ≠ .endless := by
  cases failure <;> nofun

namespace Gateway

variable {α β σ : Type}

/-- What the objects of a page or of a list are read as. -/
def readAs (objects : List (Manifest.Reading α)) : Except Fault (List α) :=
  (objects.mapM id).mapError .malformed

/-- What the answer to a call for a page is read as. -/
def answerAs (name : ListName) (answer : Answer α) : Except Fault (Page α) := do
  let page ← answer.mapError (.ofFailure { resource := name.resource })
  let items ← readAs page.items
  pure ⟨items, placeOf page.next⟩

/-- What asking a server for a page of a list comes to. -/
def asking (name : ListName) (serve : ListCall → Answer α) (size : Nat) (place : Option String) :
    Except Fault (Page α) :=
  answerAs name (serve ⟨size, placeOf place⟩)

theorem readAs_ne_endless (objects : List (Manifest.Reading α)) :
    readAs objects ≠ .error .endless := by
  unfold readAs
  cases objects.mapM id <;> nofun

/-- Objects are read in order, up to the first one that cannot be. -/
theorem readAs_append (objects rest : List (Manifest.Reading α)) :
    readAs (objects ++ rest) =
      readAs objects >>= fun items => (readAs rest).map fun later => items ++ later := by
  simp only [readAs, List.mapM_append]
  cases objects.mapM id with
  | error fault => rfl
  | ok items => cases rest.mapM id <;> rfl

theorem readAs_map_ok (items : List α) : readAs (items.map .ok) = .ok items := by
  rw [readAs, mapM_ok]
  rfl

/-- An answer is read as its objects are. -/
theorem answerAs_ok (name : ListName) (page : Page (Manifest.Reading α)) :
    answerAs name (.ok page) =
      (readAs page.items).map fun items => ⟨items, placeOf page.next⟩ :=
  rfl

theorem answerAs_error (name : ListName) (failure : CallFailure) :
    answerAs name (.error failure : Answer α) =
      .error (.ofFailure { resource := name.resource } failure) :=
  rfl

/-! ## Over a gateway -/

/-- Calls come through to a server, at a date that stays. -/
structure ReachesAt (server : Server) (size : Nat) (now : String) (g : Gateway) : Prop where
  reaches : g.Reaches server size
  now_eq : g.now = now

variable {server : Server} {size : Nat} {now : String}

theorem comesTo_connect : ComesTo (ReachesAt server size now) connect (.ok ()) := by
  intro g hg
  unfold connect
  cases hpending : g.connection.pending with
  | none => exact ⟨rfl, hg⟩
  | some outcome =>
    cases outcome with
    | error fault => exact absurd hpending (hg.reaches.opens fault)
    | ok name =>
      obtain ⟨⟨hserver, hsize, hfailures, -⟩, hnow⟩ := hg
      exact ⟨rfl, ⟨hserver, hsize, hfailures, by simp⟩, hnow⟩

/-- A call is answered by the server, or fails as the server lets it fail. -/
theorem comesTo_callServer (call : Call) (serve : Server → Except CallFailure α) :
    ComesTo (ReachesAt server size now) (callServer call serve)
      ((serve server).mapError (.ofFailure call.about)) := by
  intro g hg
  obtain ⟨⟨hserver, hsize, hfailures, hopens⟩, hnow⟩ := hg
  have hmeet : ArmedFailure.meet call.name g.failures = (none, []) := by
    rw [hfailures]
    rfl
  have hnote : ReachesAt server size now (note call g).2 :=
    ⟨⟨hserver, hsize, by simp only [note, hmeet], hopens⟩, hnow⟩
  rw [callServer, hserver]
  cases hserve : serve server with
  | ok answer =>
    simp only [note, hmeet] at hnote ⊢
    exact ⟨rfl, hnote⟩
  | error failure =>
    simp only [note, hmeet]
    exact ⟨rfl, Fault.ofFailure_ne_endless _ _⟩

theorem comesTo_place (call : Call) (serve : Server → Except CallFailure α) :
    ComesTo (ReachesAt server size now) (place call serve)
      ((serve server).mapError (.ofFailure call.about)) :=
  comesTo_connect.bind fun _ _ => comesTo_callServer call serve

/-- A page is what the server's answer is read as. -/
theorem comesTo_listPage (name : ListName) (serve : Server → ListCall → Answer α)
    (resume : Option String) :
    ComesTo (ReachesAt server size now) (listPage name serve resume none)
      (asking name (serve server) size resume) := by
  refine comesTo_get_bind fun g hg => ?_
  simp only [Option.filter_none, Option.getD_none, hg.reaches.pageSize_eq]
  refine (comesTo_place _ fun u => serve u ⟨size, placeOf resume⟩).bind fun answer _ => ?_
  refine (comesTo_ofExcept _ nofun _).bind fun items _ => ?_
  exact comesTo_pure _

theorem comesTo_role (ns name : String) :
    ComesTo (ReachesAt server size now) (role ns name) (do
      let answer ← (server.role ns name).mapError (.ofFailure (Call.role ns name).about)
      answer.mapError .malformed) :=
  (comesTo_place _ _).bind fun _ _ => comesTo_ofExcept _ nofun _

theorem comesTo_clusterRole (name : String) :
    ComesTo (ReachesAt server size now) (clusterRole name) (do
      let answer ← (server.clusterRole name).mapError (.ofFailure (Call.clusterRole name).about)
      answer.mapError .malformed) :=
  (comesTo_place _ _).bind fun _ _ => comesTo_ofExcept _ nofun _

/-! ## Walks -/

/-- From a place on, asking page by page comes to an outcome with this many questions: to all items,
or to the fault that the last question met. -/
inductive Walk (ask : Option String → Except Fault (Page α)) :
    Nat → Option String → Except Fault (List α) → Prop
  | last {place : Option String} {items : List α} :
    ask place = .ok ⟨items, none⟩ → Walk ask 1 place (.ok items)
  | more {n : Nat} {place : Option String} {behind : String} {items : List α}
      {rest : Except Fault (List α)} :
    ask place = .ok ⟨items, some behind⟩ → Walk ask n (some behind) rest →
      Walk ask (n + 1) place (rest.map fun later => items ++ later)
  | broken {place : Option String} {e : Fault} :
    ask place = .error e → Walk ask 1 place (.error e)

variable {name : ListName} {serve : ListCall → Answer α} {n : Nat} {place : Option String}

theorem asking_eq (name : ListName) {next : Option String} {objects : List (Manifest.Reading α)}
    (hplace : placeOf place = place) (h : serve ⟨size, place⟩ = .ok ⟨objects, next⟩) :
    asking name serve size place =
      (readAs objects).map fun items => ⟨items, placeOf next⟩ := by
  rw [asking, hplace, h, answerAs_ok]

/-- The place that a page leads to is one that can be asked for. -/
theorem exists_placeOf_of_asking {page : Page α} (h : asking name serve size place = .ok page) :
    ∃ next, page.next = placeOf next := by
  rw [asking] at h
  cases hserve : serve ⟨size, placeOf place⟩ with
  | error failure =>
    rw [hserve, answerAs_error] at h
    cases h
  | ok answer =>
    rw [hserve, answerAs_ok] at h
    cases hread : readAs answer.items with
    | error e =>
      rw [hread] at h
      cases h
    | ok items =>
      rw [hread] at h
      cases h
      exact ⟨answer.next, rfl⟩

/-- However a list is divided, asking for its pages comes to reading all of its objects. -/
theorem walk_of_divides {objects : List (Manifest.Reading α)}
    (h : Server.Divides serve size n place objects) (hplace : placeOf place = place) :
    ∃ k ≤ n, Walk (asking name serve size) k place (readAs objects) := by
  -- By the pages; the first unreadable object ends the walk on its page.
  induction h with
  | @last place next objects hserve hnext =>
    have hask := asking_eq name hplace hserve
    refine ⟨1, Nat.le_refl 1, ?_⟩
    cases hread : readAs objects with
    | error e =>
      rw [hread] at hask
      exact .broken hask
    | ok items =>
      rw [hread, hnext] at hask
      exact .last hask
  | @more n place next behind objects rest hserve hnext _ ih =>
    have hask := asking_eq name hplace hserve
    obtain ⟨k, hk, hrest⟩ := ih (by rw [← hnext, placeOf_placeOf])
    rw [readAs_append]
    cases hread : readAs objects with
    | error e =>
      rw [hread] at hask
      exact ⟨1, by omega, .broken hask⟩
    | ok items =>
      rw [hread, hnext] at hask
      exact ⟨k + 1, by omega, .more hask hrest⟩

/-- A list of readable objects takes one question for each of its pages. -/
theorem walk_of_serves {items : List α} (h : Server.Serves serve size n place items)
    (hplace : placeOf place = place) :
    Walk (asking name serve size) n place (.ok items) := by
  induction h with
  | @last place next items hserve hnext =>
    have hask := asking_eq name hplace hserve
    rw [readAs_map_ok, hnext] at hask
    exact .last hask
  | @more n place next behind items rest hserve hnext _ ih =>
    have hask := asking_eq name hplace hserve
    rw [readAs_map_ok, hnext] at hask
    exact .more hask (ih (by rw [← hnext, placeOf_placeOf]))

/-- A list that is refused takes a single question. -/
theorem walk_of_refused {failure : CallFailure} (hplace : placeOf place = place)
    (h : serve ⟨size, place⟩ = .error failure) :
    Walk (asking name serve size) 1 place
      (.error (.ofFailure { resource := name.resource } failure)) := by
  refine .broken ?_
  rw [asking, hplace, h, answerAs_error]

/-- No question about a list is answered by the list never ending. -/
theorem ne_endless_of_asking {e : Fault} (h : asking name serve size place = .error e) :
    e ≠ .endless := by
  rw [asking] at h
  cases hserve : serve ⟨size, placeOf place⟩ with
  | error failure =>
    rw [hserve, answerAs_error] at h
    cases h
    exact Fault.ofFailure_ne_endless _ failure
  | ok answer =>
    rw [hserve, answerAs_ok] at h
    cases hread : readAs answer.items with
    | error e' =>
      rw [hread] at h
      cases h
      rintro rfl
      exact readAs_ne_endless answer.items hread
    | ok items =>
      rw [hread] at h
      cases h

theorem Walk.ne_endless {x : Except Fault (List α)} (h : Walk (asking name serve size) n place x) :
    x ≠ .error .endless := by
  induction h with
  | last => nofun
  | @more _ _ _ items rest _ _ ih =>
    cases rest with
    | ok later => nofun
    | error e => exact ih
  | broken hask => exact fun heq => ne_endless_of_asking hask (Except.error.inj heq)

/-! ## From token to token -/

/-- From a token on, so many pages with these items are read, and the last of them leads to a token
or to the end. -/
inductive Leads (fetch : Option String → Action σ (Page β)) :
    Nat → Option String → σ → List β → Option String → σ → Prop
  | page {token behind : Option String} {s s' : σ} {items : List β} :
    fetch token s = .ok ⟨items, behind⟩ s' → Leads fetch 1 token s items behind s'
  | more {n : Nat} {token behind : Option String} {next : String} {s s' s'' : σ}
      {items rest : List β} :
    fetch token s = .ok ⟨items, some next⟩ s' → Leads fetch n (some next) s' rest behind s'' →
      Leads fetch (n + 1) token s (items ++ rest) behind s''

variable {fetch : Option String → Action σ (Page β)} {m : Nat} {token : Option String}
  {next : String} {s s' s'' : σ} {items later : List β}

/-- Pages that lead to the end are those of a list. -/
theorem Leads.pages (h : Leads fetch n token s items none s') :
    Pages fetch n token s items s' := by
  generalize hend : (none : Option String) = behind at h
  induction h with
  | page hpage => exact .last (hend ▸ hpage)
  | more hpage _ ih => exact .more hpage (ih hend)

/-- Pages lead on to the pages behind them. -/
theorem Leads.append (h : Leads fetch n token s items (some next) s')
    (hbehind : Pages fetch m (some next) s' later s'') :
    Pages fetch (n + m) token s (items ++ later) s'' := by
  generalize hnext : some next = behind at h
  induction h with
  | page hpage =>
    rw [Nat.add_comm]
    exact .more (hnext ▸ hpage) hbehind
  | more hpage _ ih =>
    rw [Nat.add_right_comm, List.append_assoc]
    exact .more hpage (ih hbehind hnext)

/-- Following a list takes up behind the pages that lead on. -/
theorem Leads.followFrom_eq (h : Leads fetch n token s items (some next) s') (fuel : Nat)
    (collected : List β) :
    followFrom fetch (fuel + n) collected token s =
      followFrom fetch fuel (collected ++ items) (some next) s' := by
  generalize hnext : some next = behind at h
  induction h generalizing collected with
  | page hpage =>
    subst hnext
    rw [followFrom, bind_eq_ok hpage]
  | more hpage _ ih =>
    rw [← Nat.add_assoc, followFrom, bind_eq_ok hpage]
    simp only
    rw [ih _ hnext, List.append_assoc]

/-! ## Made from a list -/

/-- How one list is made from another page by page. What is made of a page may depend on its place
and on a memory of the pages before it, but pages that are joined are made into the same. -/
structure Making (ask : Option String → Except Fault (Page α))
    (fetch : Option String → Action σ (Page β)) (μ : Type) where
  /-- The states in which the pages before are remembered. -/
  Remembers : μ → σ → Prop
  /-- The token of the page at a place. -/
  token : Option String → Option String
  /-- The token that the last page leads to. -/
  ending : Option String
  made : Option String → μ → List α → List β
  after : μ → List α → μ
  token_some : ∀ behind, ∃ next, token (some behind) = some next
  fetch_ok : ∀ {memory s place items behind}, Remembers memory s → ask place = .ok ⟨items, behind⟩ →
    ∃ s', fetch (token place) s = .ok ⟨made place memory items,
      if behind.isSome then token behind else ending⟩ s' ∧ Remembers (after memory items) s'
  fetch_error : ∀ {memory s place e}, Remembers memory s → ask place = .error e →
    ∃ s', fetch (token place) s = .error e s'
  made_append : ∀ place behind memory items rest, made place memory (items ++ rest) =
    made place memory items ++ made (some behind) (after memory items) rest
  after_append : ∀ memory items rest, after memory (items ++ rest) = after (after memory items) rest

namespace Making

variable {ask : Option String → Except Fault (Page α)} {μ : Type}
  (making : Making ask fetch μ) {memory : μ} {all : List α}

/-- Where all of a list can be read, so can the whole that is made from it. -/
theorem leads_of_walk (h : Walk ask n place (.ok all)) (hs : making.Remembers memory s) :
    ∃ s', Leads fetch n (making.token place) s (making.made place memory all) making.ending s' ∧
      making.Remembers (making.after memory all) s' := by
  -- By the pages; what is remembered behind a page is what the next one begins with.
  generalize hx : (Except.ok all : Except Fault (List α)) = x at h
  induction h generalizing memory s all with
  | last hask =>
    cases hx
    obtain ⟨s', hfetch, hs'⟩ := making.fetch_ok hs hask
    exact ⟨s', .page hfetch, hs'⟩
  | @more n place behind items rest hask _ ih =>
    cases rest with
    | error e => cases hx
    | ok later =>
      cases hx
      obtain ⟨s', hfetch, hs'⟩ := making.fetch_ok hs hask
      obtain ⟨s'', hleads, hs''⟩ := ih hs' rfl
      obtain ⟨next, hnext⟩ := making.token_some behind
      rw [Option.isSome_some, if_pos rfl, hnext] at hfetch
      rw [hnext] at hleads
      rw [making.made_append place behind, making.after_append]
      exact ⟨s'', .more hfetch hleads, hs''⟩
  | broken => cases hx

/-- Where a list cannot be read, what is made from it fails as the list does. -/
theorem followFrom_of_walk_error {e : Fault} (h : Walk ask n place (.error e))
    (hs : making.Remembers memory s) {fuel : Nat} (hfuel : n ≤ fuel) (collected : List β) :
    ∃ s', followFrom fetch fuel collected (making.token place) s = .error e s' := by
  -- By the pages before the fault; what was made of them is lost.
  generalize hx : (Except.error e : Except Fault (List α)) = x at h
  induction h generalizing memory s fuel collected with
  | last => cases hx
  | @more n place behind items rest hask _ ih =>
    cases rest with
    | ok later => cases hx
    | error e =>
      cases hx
      obtain ⟨fuel, rfl⟩ : ∃ k, fuel = k + 1 := ⟨fuel - 1, by omega⟩
      obtain ⟨s', hfetch, hs'⟩ := making.fetch_ok hs hask
      obtain ⟨next, hnext⟩ := making.token_some behind
      rw [Option.isSome_some, if_pos rfl, hnext] at hfetch
      rw [followFrom, bind_eq_ok hfetch]
      rw [hnext] at ih
      exact ih hs' (by omega) _ rfl
  | broken hask =>
    cases hx
    obtain ⟨s', hfetch⟩ := making.fetch_error hs hask
    exact ⟨s', followFrom_eq_error hfetch hfuel collected⟩

/-- What is made from a whole list ends as the list does. -/
theorem endsAs_followFrom (hending : making.ending = none) {x : Except Fault (List α)}
    (h : Walk ask n place x) (hx : x ≠ .error .endless) (hs : making.Remembers memory s)
    {fuel : Nat} (hfuel : n ≤ fuel) :
    EndsAs (fun s' => ∃ memory', making.Remembers memory' s')
      (x.map (making.made place memory)) (followFrom fetch fuel [] (making.token place) s) := by
  cases x with
  | ok all =>
    obtain ⟨s', hleads, hs'⟩ := making.leads_of_walk h hs
    rw [hending] at hleads
    rw [followFrom_of_pages hleads.pages [] hfuel]
    exact ⟨rfl, _, hs'⟩
  | error e =>
    obtain ⟨s', hfollow⟩ := making.followFrom_of_walk_error h hs hfuel []
    rw [hfollow]
    exact ⟨rfl, fun heq => hx (congrArg _ heq)⟩

end Making

/-! ## The server's own lists -/

/-- A list of the server, read page by page. -/
def plain (server : Server) (size : Nat) (now : String) (name : ListName)
    (serve : Server → ListCall → Answer α) :
    Making (asking name (serve server) size) (fun resume => listPage name serve resume none)
      Unit where
  Remembers _ g := ReachesAt server size now g
  token := id
  ending := none
  made _ _ items := items
  after _ _ := ()
  token_some behind := ⟨behind, rfl⟩
  fetch_ok {_ g place items behind} hg hask := by
    have hcomes : ComesTo (ReachesAt server size now) _ _ := comesTo_listPage name serve place
    rw [hask] at hcomes
    obtain ⟨g', hpage, hg'⟩ := hcomes.eq_ok hg
    refine ⟨g', ?_, hg'⟩
    rw [id, hpage]
    cases behind <;> rfl
  fetch_error {_ g place e} hg hask := by
    have hcomes : ComesTo (ReachesAt server size now) _ _ := comesTo_listPage name serve place
    rw [hask] at hcomes
    exact hcomes.eq_error hg
  made_append _ _ _ _ _ := rfl
  after_append _ _ _ := rfl

/-- A list is drained into what it is read as. -/
theorem comesTo_drain {name : ListName} {serve : Server → ListCall → Answer α}
    {x : Except Fault (List α)}
    (h : ∃ n ≤ server.pageLimit, Walk (asking name (serve server) size) n none x) :
    ComesTo (ReachesAt server size now) (drain fun resume => listPage name serve resume none)
      x := by
  obtain ⟨n, hn, hwalk⟩ := h
  intro g hg
  -- No list has more pages than the server promises, so that many questions are enough.
  have hpatience : n ≤ g.patience := by
    rw [patience, hg.reaches.server_eq]
    omega
  have hremembers : (plain server size now name serve).Remembers () g := hg
  have hends := (plain server size now name serve).endsAs_followFrom rfl hwalk hwalk.ne_endless
    hremembers hpatience
  rw [drain_apply]
  have hsame : x.map ((plain server size now name serve).made none ()) = x := by
    cases x <;> rfl
  rw [hsame] at hends
  exact hends.mono fun _ h => h.elim fun _ hg => hg

end Gateway
end ClusterAccess
