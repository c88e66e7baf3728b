/-
  ClusterAccess.Proofs.PrincipalNames

  Who a listing of principals gives, and when it ends. However the bindings are
  divided into pages, a new listing takes one call for each page of the bindings of
  namespaces and then one for each of those of the cluster, and gives the built-in
  names and the names in the bindings, each at its first place only. Whatever pages
  it is asked for, in whatever order, it gives no name twice.
-/
import ClusterAccess.Proofs.Agreement
import ClusterAccess.Proofs.DividedLists
import ClusterAccess.Proofs.FirstOccurrences
import ClusterAccess.Proofs.Listings

namespace ClusterAccess

open ClusterAccess.Action

/-- A page of a listing by the token that the page before it gave. -/
def Catalog.pageAt (token : Option String) : Action (Linked Catalog) (Page Resource) :=
  list (token.getD "")

namespace PrincipalListing

open Catalog (pageAt)

/-! ## One page -/

/-- The names that a listing gives for a page with these subjects. -/
def fresh (listing : PrincipalListing) (subjects : List Subject) : List String :=
  firstsAfter listing.seen (listing.principal.builtIn ++ namesAmong listing.principal subjects)

/-- The listing behind a page with these subjects. -/
def turned (listing : PrincipalListing) (subjects : List Subject) : PrincipalListing :=
  { listing with seen := listing.seen ++ listing.fresh subjects }

variable {listing : PrincipalListing} {text : String} {t : PageToken} {g g' : Gateway}
  {l l' : Linked Catalog} {page : Page Resource}

theorem namesAmong_append (principal : PrincipalKind) (subjects later : List Subject) :
    namesAmong principal (subjects ++ later) =
      namesAmong principal subjects ++ namesAmong principal later := by
  simp only [namesAmong, List.filter_append, List.map_append]

theorem give_apply (names : List String) (listing : PrincipalListing) (g : Gateway) :
    give names ⟨listing, g⟩ =
      .ok (resources listing.principal (firstsAfter listing.seen names))
        ⟨{ listing with seen := listing.seen ++ firstsAfter listing.seen names }, g⟩ := rfl

/-- A page gives the names that are new among the built-in ones and its own. A page that cannot be
read gives none, but the built-in ones count as given. -/
theorem list_apply (ht : PageToken.decode text = .ok t) (listing : PrincipalListing)
    (g : Gateway) :
    Catalog.list text ⟨.principals listing, g⟩ =
      match subjectsPage t.resume (t.phase.getD .roleBindings) g with
      | .ok page g' =>
        .ok ⟨resources listing.principal (listing.fresh page.items),
          (nextToken (t.phase.getD .roleBindings) page.next).map PageToken.encode⟩
          ⟨.principals (listing.turned page.items), g'⟩
      | .error e g' => .error e ⟨.principals (listing.turned []), g'⟩ := by
  have hnone : listing.fresh [] = firstsAfter listing.seen listing.principal.builtIn := by
    simp [fresh, namesAmong]
  rw [Catalog.list_apply ht]
  simp only [Linked.within, Action.onPart, list, bind_apply, get_apply, give_apply,
    Linked.fetch_apply, turned, hnone]
  cases subjectsPage t.resume (t.phase.getD .roleBindings) g with
  | error e g' => rfl
  | ok page g' =>
    -- Giving the built-in names and then those of the page is giving both at once.
    simp only [give_apply, pure_apply, fresh, firstsAfter_append, List.append_assoc, resources,
      List.map_append]

/-! ## Page after page -/

theorem mem_fresh {name : String} {subjects : List Subject} :
    name ∈ listing.fresh subjects ↔
      name ∈ listing.principal.builtIn ++ namesAmong listing.principal subjects ∧
        name ∉ listing.seen :=
  mem_firstsAfter

theorem principal_turned (listing : PrincipalListing) (subjects : List Subject) :
    (listing.turned subjects).principal = listing.principal := rfl

/-- Behind a page the built-in names have been given, on it or before it. -/
theorem mem_seen_turned {name : String} (hname : name ∈ listing.principal.builtIn)
    (subjects : List Subject) : name ∈ (listing.turned subjects).seen := by
  by_cases hseen : name ∈ listing.seen
  case pos => exact List.mem_append_left _ hseen
  case neg => exact List.mem_append_right _ (mem_fresh.2 ⟨List.mem_append_left _ hname, hseen⟩)

/-- Two pages give what one page with the subjects of both would give. -/
theorem fresh_append (listing : PrincipalListing) (subjects later : List Subject) :
    listing.fresh (subjects ++ later) =
      listing.fresh subjects ++ (listing.turned subjects).fresh later := by
  have hbuiltIn : firstsAfter (listing.turned subjects).seen listing.principal.builtIn = [] :=
    firstsAfter_eq_nil fun _ hname => mem_seen_turned hname subjects
  have hlater : (listing.turned subjects).fresh later =
      firstsAfter (listing.turned subjects).seen (namesAmong listing.principal later) := by
    rw [fresh, principal_turned, firstsAfter_append, hbuiltIn, List.nil_append, List.append_nil]
  rw [hlater, fresh, namesAmong_append, ← List.append_assoc, firstsAfter_append]
  rfl

theorem turned_append (listing : PrincipalListing) (subjects later : List Subject) :
    listing.turned (subjects ++ later) = (listing.turned subjects).turned later := by
  simp only [turned, fresh_append, List.append_assoc]

/-! ## Phases -/

section Phases

variable {α : Type} {phase : BindingPhase} {name : ListName} {serve : Server → ListCall → Answer α}
  {subjects : α → List Subject}

/-- A phase goes through one list of the server. -/
def GoesThrough (phase : BindingPhase) (name : ListName) (serve : Server → ListCall → Answer α)
    (subjects : α → List Subject) : Prop :=
  ∀ place, subjectsPage place phase = do
    let page ← Gateway.listPage name serve place none
    pure ⟨page.items.flatMap subjects, page.next⟩

theorem goesThrough_roleBindings :
    GoesThrough .roleBindings .roleBindings Server.roleBindings RoleBinding.subjects :=
  fun _ => rfl

theorem goesThrough_clusterRoleBindings :
    GoesThrough .clusterRoleBindings .clusterRoleBindings Server.clusterRoleBindings
      ClusterRoleBinding.subjects :=
  fun _ => rfl

/-- A listing of principals, with the names that it has given, over a server. -/
def Standing (server : Server) (size : Nat) (now : String) (listing : PrincipalListing)
    (l : Linked Catalog) : Prop :=
  l.own = .principals listing ∧ l.gateway.ReachesAt server size now

variable {server : Server} {size : Nat} {now : String} {place : Option String}

theorem exists_list_of_asking (h : GoesThrough phase name serve subjects)
    (hl : Standing server size now listing l) {items : List α} {next : Option String}
    (hask : Gateway.asking name (serve server) size place = .ok ⟨items, next⟩) :
    ∃ l', Catalog.list ((tokenIn phase place).getD "") l =
        .ok ⟨resources listing.principal (listing.fresh (items.flatMap subjects)),
          (nextToken phase next).map PageToken.encode⟩ l' ∧
      Standing server size now (listing.turned (items.flatMap subjects)) l' := by
  obtain ⟨own, gateway⟩ := l
  obtain ⟨rfl, hg⟩ := hl
  obtain ⟨t, ht, hphase, hresume⟩ := decode_tokenIn phase place
  have hpage : ComesTo (Gateway.ReachesAt server size now) _ _ :=
    Gateway.comesTo_listPage name serve place
  rw [hask] at hpage
  obtain ⟨g', hrun, hg'⟩ := hpage.eq_ok hg
  rw [list_apply ht, hphase, hresume, h, bind_eq_ok hrun]
  exact ⟨_, rfl, rfl, hg'⟩

theorem exists_list_error_of_asking (h : GoesThrough phase name serve subjects)
    (hl : Standing server size now listing l) {e : Fault}
    (hask : Gateway.asking name (serve server) size place = .error e) :
    ∃ l', Catalog.list ((tokenIn phase place).getD "") l = .error e l' := by
  obtain ⟨own, gateway⟩ := l
  obtain ⟨rfl, hg⟩ := hl
  obtain ⟨t, ht, hphase, hresume⟩ := decode_tokenIn phase place
  have hpage : ComesTo (Gateway.ReachesAt server size now) _ _ :=
    Gateway.comesTo_listPage name serve place
  rw [hask] at hpage
  obtain ⟨g', hrun⟩ := hpage.eq_error hg
  rw [list_apply ht, hphase, hresume, h, bind_apply, hrun]
  exact ⟨_, rfl⟩

/-- The names in the bindings of a phase, made page by page. -/
def making (server : Server) (size : Nat) (now : String)
    (h : GoesThrough phase name serve subjects) :
    Gateway.Making (Gateway.asking name (serve server) size) pageAt PrincipalListing where
  Remembers := Standing server size now
  token := tokenIn phase
  ending := (nextToken phase none).map PageToken.encode
  made _ listing items := resources listing.principal (listing.fresh (items.flatMap subjects))
  after listing items := listing.turned (items.flatMap subjects)
  token_some behind := ⟨_, by rw [tokenIn, if_neg (by simp)]⟩
  fetch_ok {listing l place items behind} hl hask := by
    obtain ⟨l', hlist, hl'⟩ := exists_list_of_asking h hl hask
    refine ⟨l', ?_, hl'⟩
    cases behind with
    | none => exact hlist
    | some behind =>
      rw [nextToken_some] at hlist
      exact hlist
  fetch_error hl hask := exists_list_error_of_asking h hl hask
  made_append _ _ listing items rest := by
    rw [List.flatMap_append, fresh_append]
    exact List.map_append
  after_append listing items rest := by
    rw [List.flatMap_append, turned_append]

end Phases

/-! ## To the end -/

/-- The subjects of all bindings, those inside namespaces first. -/
def subjectsIn (roleBindings : List RoleBinding) (clusterRoleBindings : List ClusterRoleBinding) :
    List Subject :=
  roleBindings.flatMap RoleBinding.subjects ++
    clusterRoleBindings.flatMap ClusterRoleBinding.subjects

variable {server : Server} {size n m : Nat} {now : String} {roleBindings : List RoleBinding}
  {clusterRoleBindings : List ClusterRoleBinding}

/-- The bindings of the cluster follow those of namespaces, and what has been given by then is not
given again. -/
theorem exists_pages
    (hroles : Gateway.Walk (Gateway.asking .roleBindings server.roleBindings size) n none
      (.ok roleBindings))
    (hclusters : Gateway.Walk (Gateway.asking .clusterRoleBindings server.clusterRoleBindings size)
      m none (.ok clusterRoleBindings))
    (hl : Standing server size now listing l) :
    ∃ l', Gateway.Pages pageAt (n + m) none l (resources listing.principal
        (listing.fresh (subjectsIn roleBindings clusterRoleBindings))) l' ∧
      Standing server size now
        (listing.turned (subjectsIn roleBindings clusterRoleBindings)) l' := by
  obtain ⟨mid, hfirst, hmid⟩ :=
    (making server size now goesThrough_roleBindings).leads_of_walk hroles hl
  obtain ⟨l', hsecond, hl'⟩ :=
    (making server size now goesThrough_clusterRoleBindings).leads_of_walk hclusters hmid
  refine ⟨l', ?_, ?_⟩
  · rw [subjectsIn, fresh_append, resources, List.map_append]
    exact hfirst.append hsecond.pages
  · rw [subjectsIn, turned_append]
    exact hl'

/-- Following a listing of principals ends as reading all bindings does. -/
theorem endsAs_followFrom {roleBindings : Except Fault (List RoleBinding)}
    {clusterRoleBindings : Except Fault (List ClusterRoleBinding)}
    (hroles : Gateway.Walk (Gateway.asking .roleBindings server.roleBindings size) n none
      roleBindings)
    (hclusters : Gateway.Walk (Gateway.asking .clusterRoleBindings server.clusterRoleBindings size)
      m none clusterRoleBindings)
    (hl : Standing server size now listing l) {fuel : Nat} (hfuel : n + m ≤ fuel) :
    EndsAs (fun l' => ∃ listing', listing'.principal = listing.principal ∧
        Standing server size now listing' l')
      (do
        let roleBindings ← roleBindings
        let clusterRoleBindings ← clusterRoleBindings
        pure (resources listing.principal
          (listing.fresh (subjectsIn roleBindings clusterRoleBindings))))
      (Gateway.followFrom pageAt fuel [] none l) := by
  cases roleBindings with
  | error e =>
    obtain ⟨l', hfollow⟩ :=
      (making server size now goesThrough_roleBindings).followFrom_of_walk_error
        hroles hl (Nat.le_trans (Nat.le_add_right n m) hfuel) []
    exact endsAs_error hfollow fun heq => hroles.ne_endless (congrArg _ heq)
  | ok roleBindings =>
    cases clusterRoleBindings with
    | ok clusterRoleBindings =>
      obtain ⟨l', hpages, hl'⟩ := exists_pages hroles hclusters hl
      rw [Gateway.followFrom_of_pages hpages [] hfuel]
      exact ⟨rfl, listing.turned _, rfl, hl'⟩
    | error e =>
      -- The first list leads on to the second one, which cannot be read.
      obtain ⟨mid, hfirst, hmid⟩ :=
        (making server size now goesThrough_roleBindings).leads_of_walk hroles hl
      obtain ⟨fuel, rfl⟩ : ∃ k, fuel = k + n := ⟨fuel - n, by omega⟩
      obtain ⟨l', hfollow⟩ :=
        (making server size now goesThrough_clusterRoleBindings).followFrom_of_walk_error
          hclusters hmid (show m ≤ fuel by omega) _
      exact endsAs_error ((hfirst.followFrom_eq fuel []).trans hfollow) fun heq =>
        hclusters.ne_endless (congrArg _ heq)

/-! ## Calls -/

theorem calls_subjectsPage {place : Option String} {phase : BindingPhase} {found : Page Subject}
    (h : subjectsPage place phase g = .ok found g') :
    ∃ call, g'.calls = g.calls ++ [call] := by
  cases phase with
  | roleBindings =>
    obtain ⟨read, mid, hread, hrest⟩ := bind_ok h
    cases hrest
    obtain ⟨_, _, -, -, hcalls⟩ := Gateway.listPage_ok hread
    exact ⟨_, hcalls⟩
  | clusterRoleBindings =>
    obtain ⟨read, mid, hread, hrest⟩ := bind_ok h
    cases hrest
    obtain ⟨_, _, -, -, hcalls⟩ := Gateway.listPage_ok hread
    exact ⟨_, hcalls⟩

/-- What a page of principals is that was read, and that it took one call. -/
theorem list_ok (hown : l.own = .principals listing) (h : Catalog.list text l = .ok page l') :
    ∃ subjects, page.items = resources listing.principal (listing.fresh subjects) ∧
      l'.own = .principals (listing.turned subjects) ∧
        ∃ call, l'.gateway.calls = l.gateway.calls ++ [call] := by
  obtain ⟨own, gateway⟩ := l
  obtain rfl : own = .principals listing := hown
  cases ht : PageToken.decode text with
  | error e =>
    rw [Catalog.list, ht] at h
    cases h
  | ok t =>
    rw [list_apply ht] at h
    split at h
    next found g' hfound =>
      cases h
      exact ⟨found.items, rfl, rfl, calls_subjectsPage hfound⟩
    next => cases h

/-- A page of principals that could not be read has given nobody, and taken nobody back. -/
theorem list_error {e : Fault} (hown : l.own = .principals listing)
    (h : Catalog.list text l = .error e l') :
    ∃ seen, l'.own = .principals { listing with seen } ∧ listing.seen ⊆ seen := by
  obtain ⟨own, gateway⟩ := l
  obtain rfl : own = .principals listing := hown
  cases ht : PageToken.decode text with
  | error e =>
    rw [Catalog.list, ht] at h
    cases h
    exact ⟨_, rfl, List.Subset.refl _⟩
  | ok t =>
    rw [list_apply ht] at h
    split at h
    next => cases h
    next e' g' hfound =>
      cases h
      exact ⟨_, rfl, List.subset_append_left _ _⟩

/-- Each page of a listing takes one call. -/
theorem calls_of_pages {token : Option String} {found : List Resource}
    (h : Gateway.Pages pageAt n token l found l') (hown : l.own = .principals listing) :
    l'.gateway.calls.length = l.gateway.calls.length + n := by
  induction h generalizing listing with
  | last hpage =>
    obtain ⟨_, -, -, call, hcalls⟩ := list_ok hown hpage
    rw [hcalls, List.length_append, List.length_singleton]
  | more hpage _ ih =>
    obtain ⟨_, -, hown', call, hcalls⟩ := list_ok hown hpage
    rw [ih hown', hcalls, List.length_append, List.length_singleton]
    omega

/-! ## In any order -/

/-- What befalls a listing: it is asked for a page by some token, or something happens to its
cluster. -/
inductive Event
  | ask (token : String)
  | outside (incident : Gateway.Incident)

/-- All that a listing gives while this befalls it. A page that cannot be read gives nothing. -/
def givenIn : List Event → Linked Catalog → List Resource
  | [], _ => []
  | .ask token :: rest, l =>
    match Catalog.list token l with
    | .ok page l' => page.items ++ givenIn rest l'
    | .error _ l' => givenIn rest l'
  | .outside incident :: rest, l =>
    givenIn rest { l with gateway := l.gateway.undergo incident }

/-- Nobody is given twice, and nobody again who had been given before. -/
theorem names_of_givenIn (events : List Event) (hown : l.own = .principals listing) :
    ∃ names, givenIn events l = resources listing.principal names ∧ names.Nodup ∧
      ∀ name ∈ names, name ∉ listing.seen := by
  -- By the events; the names of a page have been seen when the later ones are given.
  induction events generalizing l listing with
  | nil => exact ⟨[], rfl, List.nodup_nil, fun _ hname => absurd hname List.not_mem_nil⟩
  | cons event rest ih =>
    cases event with
    | outside incident => exact ih hown
    | ask token =>
      rw [givenIn]
      cases hlist : Catalog.list token l with
      | error e l' =>
        obtain ⟨seen, hown', hsubset⟩ := list_error hown hlist
        obtain ⟨names, hgiven, hnodup, hnew⟩ := ih hown'
        exact ⟨names, hgiven, hnodup, fun name hname hseen => hnew name hname (hsubset hseen)⟩
      | ok page l' =>
        obtain ⟨subjects, hitems, hown', -⟩ := list_ok hown hlist
        obtain ⟨later, hgiven, hnodup, hnew⟩ := ih hown'
        refine ⟨listing.fresh subjects ++ later, ?_, ?_, ?_⟩
        · simp only [hitems, hgiven, principal_turned, resources, List.map_append]
        · refine List.nodup_append.2 ⟨nodup_firstsAfter _ _, hnodup, ?_⟩
          rintro name hname _ hlater rfl
          exact hnew name hlater (List.mem_append_right _ hname)
        · refine List.forall_mem_append.2 ⟨fun name hname => (mem_fresh.1 hname).2, ?_⟩
          exact fun name hname hseen => hnew name hname (List.mem_append_left _ hseen)

/-! ## New listings -/

/-- Everyone whom a listing of principals has to give: the built-in names, and then those in the
bindings, each name once. -/
def everyone (principal : PrincipalKind) (roleBindings : List RoleBinding)
    (clusterRoleBindings : List ClusterRoleBinding) : List String :=
  (principal.builtIn ++
    namesAmong principal (subjectsIn roleBindings clusterRoleBindings)).eraseDups

theorem fresh_new (principal : PrincipalKind) :
    fresh { principal } (subjectsIn roleBindings clusterRoleBindings) =
      everyone principal roleBindings clusterRoleBindings := by
  rw [fresh, firstsAfter_eq_eraseDups, everyone]
  congr 1
  exact List.filter_eq_self.2 fun _ _ => rfl

/-- However the bindings are divided into pages, a new listing of principals is drained in as many
list calls as both lists have pages, each of them one call to the server, and gives everyone in the
order of first occurrence. And whatever befalls a new listing, it gives no name twice. -/
theorem everyone_once (principal : PrincipalKind) {gateway : Gateway}
    (hroles : Server.Serves gateway.server.roleBindings gateway.pageSize n none roleBindings)
    (hclusters : Server.Serves gateway.server.clusterRoleBindings gateway.pageSize m none
      clusterRoleBindings)
    (hfailures : gateway.failures = [])
    (hopens : ∀ fault, gateway.connection.pending ≠ some (.error fault)) :
    (everyone principal roleBindings clusterRoleBindings).Nodup ∧
    (∃ l', Gateway.Pages pageAt (n + m) none ⟨.principals { principal }, gateway⟩
        (resources principal (everyone principal roleBindings clusterRoleBindings)) l' ∧
      Gateway.followFrom pageAt (n + m) [] none ⟨.principals { principal }, gateway⟩ =
        .ok (resources principal (everyone principal roleBindings clusterRoleBindings)) l' ∧
      l'.gateway.calls.length = gateway.calls.length + (n + m)) ∧
    (∀ token listing page (l l' : Linked Catalog), l.own = .principals listing →
      Catalog.list token l = .ok page l' →
        ∃ call, l'.gateway.calls = l.gateway.calls ++ [call]) ∧
    ∀ (events : List Event) (g : Gateway), ∃ names : List String, names.Nodup ∧
      givenIn events ⟨.principals { principal }, g⟩ = resources principal names := by
  refine ⟨?_, ?_, ?_, ?_⟩
  · rw [← fresh_new]
    exact nodup_firstsAfter _ _
  · have hreaches : gateway.ReachesAt gateway.server gateway.pageSize gateway.now :=
      ⟨⟨rfl, rfl, hfailures, hopens⟩, rfl⟩
    have hl : Standing gateway.server gateway.pageSize gateway.now { principal }
        ⟨.principals { principal }, gateway⟩ := ⟨rfl, hreaches⟩
    obtain ⟨l', hpages, -⟩ := exists_pages (Gateway.walk_of_serves hroles rfl)
      (Gateway.walk_of_serves hclusters rfl) hl
    rw [fresh_new] at hpages
    exact ⟨l', hpages, Gateway.followFrom_of_pages hpages [] (Nat.le_refl _),
      calls_of_pages hpages rfl⟩
  · intro token listing page l l' hown hlist
    obtain ⟨_, -, -, hcall⟩ := list_ok hown hlist
    exact hcall
  · intro events g
    have hown : (⟨.principals { principal }, g⟩ : Linked Catalog).own =
        .principals { principal } := rfl
    obtain ⟨names, hgiven, hnodup, -⟩ := names_of_givenIn events hown
    exact ⟨names, hnodup, hgiven⟩

/-- A binding that names a built-in group among others, one of them twice. -/
def deployers : RoleBinding where
  name := "deployers"
  ns := "team-a"
  roleRef := ⟨"Role", "deployer", ""⟩
  subjects := [⟨"Group", "dev", "", ""⟩, ⟨"Group", "system:masters", "", ""⟩,
    ⟨"User", "alice", "", ""⟩, ⟨"Group", "dev", "", ""⟩]

/-- A binding that names a new group, a nameless one, and one that is known. -/
def viewers : ClusterRoleBinding where
  name := "viewers"
  roleRef := ⟨"ClusterRole", "view", ""⟩
  subjects := [⟨"Group", "ops", "", ""⟩, ⟨"Group", "", "", ""⟩, ⟨"Group", "dev", "", ""⟩]

/-- A server whose first page of bindings is empty, and yet leads on. -/
def groupServer : Server where
  roles _ := .ok {}
  clusterRoles _ := .ok {}
  roleBindings call :=
    if call.resume = none then .ok { next := some "deployers" }
    else .ok { items := [.ok deployers] }
  clusterRoleBindings _ := .ok { items := [.ok viewers] }
  objects _ _ := .ok {}
  role _ _ := .error (.api (some 404) none)
  clusterRole _ := .error (.api (some 404) none)
  pageLimit := 2

/-- A gateway to that server. -/
def groupGateway : Gateway where
  server := groupServer
  pageSize := 100

/-- Its groups are given in three calls, one of which finds nobody. -/
theorem everyone_once_groups :
    Server.Serves groupServer.roleBindings 100 2 none [deployers] ∧
      Server.Serves groupServer.clusterRoleBindings 100 1 none [viewers] ∧
      ∃ l', Gateway.Pages pageAt 3 none
        ⟨.principals { principal := .group }, groupGateway⟩
        (resources .group ["system:masters", "system:authenticated", "system:unauthenticated",
          "dev", "ops"]) l' := by
  have hroles : Server.Serves groupServer.roleBindings 100 2 none [deployers] := by
    have hlast : Server.Serves groupServer.roleBindings 100 1 (some "deployers") [deployers] :=
      .last rfl rfl
    have hfirst : groupServer.roleBindings ⟨100, none⟩ =
        .ok ⟨([] : List RoleBinding).map .ok, some "deployers"⟩ := rfl
    exact .more hfirst rfl hlast
  have hclusters : Server.Serves groupServer.clusterRoleBindings 100 1 none [viewers] :=
    .last rfl rfl
  have hnames : everyone .group [deployers] [viewers] =
      ["system:masters", "system:authenticated", "system:unauthenticated", "dev", "ops"] := by
    decide
  have hopens : ∀ fault, groupGateway.connection.pending ≠ some (.error fault) := fun _ => nofun
  obtain ⟨-, ⟨l', hpages, -⟩, -⟩ := everyone_once .group hroles hclusters rfl hopens
  rw [hnames] at hpages
  exact ⟨hroles, hclusters, l', hpages⟩

end PrincipalListing
end ClusterAccess
