/-
  ClusterAccess.Proofs.FailedPages

  What a failed page leaves behind of a listing of principals. The built-in names
  are noted as given before the server is asked, so a page that fails takes them
  along: the call made again gives the page without them, and nothing gives them
  later. A failed page leaves a listing as it was exactly if its token could not be
  read or the built-in names had been noted before, as they have been in a listing
  of users and behind any call with a token that could be read.
-/
import ClusterAccess.Proofs.PrincipalNames

namespace ClusterAccess.PrincipalListing

open ClusterAccess.Action

variable {listing listing' : PrincipalListing} {principal : PrincipalKind} {text : String}
  {g h : Gateway} {l l' m : Linked Catalog} {page : Page Resource} {e : Fault}
  {fault : TokenFault} {name : String}

/-! ## A call that fails -/

theorem mem_fresh_nil : name ∈ listing.fresh [] ↔
    name ∈ listing.principal.builtIn ∧ name ∉ listing.seen := by
  rw [mem_fresh, namesAmong, List.filter_nil, List.map_nil, List.append_nil]

/-- Noting the built-in names changes nothing if they have been noted before. -/
theorem turned_nil_eq_iff :
    listing.turned [] = listing ↔ ∀ name ∈ listing.principal.builtIn, name ∈ listing.seen := by
  have hfresh : listing.turned [] = listing ↔ listing.fresh [] = [] := by
    rw [turned, PrincipalListing.mk.injEq, eq_self, true_and, List.append_right_eq_self]
  simp only [hfresh, List.eq_nil_iff_forall_not_mem, mem_fresh_nil, not_and, Classical.not_not]

theorem decode_ne_ok (ht : PageToken.decode text = .error fault) (t : PageToken) :
    PageToken.decode text ≠ .ok t := by
  rw [ht]
  exact nofun

/-- A call by a token that cannot be read does nothing. -/
theorem list_of_unreadable (ht : PageToken.decode text = .error fault) (l : Linked Catalog) :
    Catalog.list text l = .error (.token fault) l := by
  rw [Catalog.list, ht]
  rfl

/-- A call that fails has noted the built-in names, if its token could be read. -/
theorem own_of_list_error {t : PageToken} (ht : PageToken.decode text = .ok t)
    (hfail : Catalog.list text ⟨.principals listing, g⟩ = .error e l') :
    l'.own = .principals (listing.turned []) := by
  rw [list_apply ht] at hfail
  split at hfail
  next => cases hfail
  next => cases hfail; rfl

/-- Once the built-in names have been noted, a page lacks those that it would have given. -/
theorem list_turned_nil (hpage : Catalog.list text ⟨.principals listing, h⟩ = .ok page m) :
    ∃ rest, page.items = resources listing.principal (listing.fresh []) ++ rest ∧
      Catalog.list text ⟨.principals (listing.turned []), h⟩ = .ok ⟨rest, page.next⟩ m := by
  cases ht : PageToken.decode text with
  | error fault =>
    rw [list_of_unreadable ht] at hpage
    cases hpage
  | ok t =>
    rw [list_apply ht] at hpage ⊢
    cases hfound : subjectsPage t.resume (t.phase.getD .roleBindings) h with
    | error e h' =>
      rw [hfound] at hpage
      cases hpage
    | ok found h' =>
      rw [hfound] at hpage
      cases hpage
      -- The page is one without subjects and then one with those that were found.
      have hfresh : listing.fresh found.items =
          listing.fresh [] ++ (listing.turned []).fresh found.items :=
        fresh_append listing [] found.items
      have hturned : listing.turned found.items = (listing.turned []).turned found.items :=
        turned_append listing [] found.items
      refine ⟨resources listing.principal ((listing.turned []).fresh found.items), ?_, ?_⟩
      · show resources _ (listing.fresh found.items) = _
        rw [hfresh]
        exact List.map_append
      · simp only [hturned, principal_turned]

/-! ## What has befallen a listing -/

/-- The listing and its cluster behind some events. -/
def behind : List Event → Linked Catalog → Linked Catalog
  | [], l => l
  | .ask token :: rest, l => behind rest ((Catalog.list token).outcome l).2
  | .outside incident :: rest, l => behind rest { l with gateway := l.gateway.undergo incident }

/-- A page is asked for by a token that can be read. -/
def Event.Reads : Event → Prop
  | .ask token => ∃ t, PageToken.decode token = .ok t
  | .outside _ => False

/-- A call by a token that can be read notes the built-in names, whether it fails or not. -/
theorem own_outcome_of_readable {t : PageToken} (ht : PageToken.decode text = .ok t)
    (hown : l.own = .principals listing) :
    ∃ subjects, ((Catalog.list text).outcome l).2.own = .principals (listing.turned subjects) := by
  obtain ⟨own, gateway⟩ := l
  obtain rfl : own = .principals listing := hown
  rw [outcome, list_apply ht]
  cases subjectsPage t.resume (t.phase.getD .roleBindings) gateway with
  | ok found g' => exact ⟨found.items, rfl⟩
  | error e g' => exact ⟨[], rfl⟩

/-- The built-in names have been noted if they had been before, or some token could be read. -/
theorem own_behind (events : List Event) (hown : l.own = .principals listing) :
    ∃ listing', (behind events l).own = .principals listing' ∧
      listing'.principal = listing.principal ∧
      ((∀ name ∈ listing.principal.builtIn, name ∈ listing'.seen) ↔
        (∀ name ∈ listing.principal.builtIn, name ∈ listing.seen) ∨
          ∃ event ∈ events, event.Reads) := by
  -- By the events; only a call whose token can be read changes the listing.
  induction events generalizing l listing with
  | nil => exact ⟨listing, hown, rfl, by simp⟩
  | cons event rest ih =>
    cases event with
    | outside incident =>
      obtain ⟨listing', hown', hprincipal, hiff⟩ :=
        ih (l := { l with gateway := l.gateway.undergo incident }) hown
      exact ⟨listing', hown', hprincipal, by simpa [Event.Reads] using hiff⟩
    | ask token =>
      cases ht : PageToken.decode token with
      | error fault =>
        have hstays : ((Catalog.list token).outcome l).2 = l := by
          rw [outcome, list_of_unreadable ht]
        obtain ⟨listing', hown', hprincipal, hiff⟩ := ih hown
        refine ⟨listing', ?_, hprincipal, ?_⟩
        · rw [behind, hstays]
          exact hown'
        · have hnot : ¬ (Event.ask token).Reads := by
            rintro ⟨t, heq⟩
            exact decode_ne_ok ht t heq
          simpa [hnot] using hiff
      | ok t =>
        obtain ⟨subjects, hturned⟩ := own_outcome_of_readable ht hown
        obtain ⟨listing', hown', hprincipal, hiff⟩ := ih hturned
        have hnoted : ∀ name ∈ listing.principal.builtIn, name ∈ (listing.turned subjects).seen :=
          fun _ hname => mem_seen_turned hname subjects
        refine ⟨listing', hown', hprincipal, iff_of_true (hiff.2 (.inl hnoted)) ?_⟩
        exact .inr ⟨_, List.mem_cons_self, t, ht⟩

/-! ## Listings that are left as they were -/

/-- A failed page has left a listing as it was: the listing is the same, the same call gives the
page that it would have given, and whatever befalls the listing, it gives what it would have. -/
structure LeavesAlone (text : String) (listing : PrincipalListing) (l' : Linked Catalog) :
    Prop where
  own_eq : l'.own = .principals listing
  page_eq : ∀ g page m, Catalog.list text ⟨.principals listing, g⟩ = .ok page m →
    Catalog.list text ⟨l'.own, g⟩ = .ok page m
  given_eq : ∀ later g, givenIn later ⟨l'.own, g⟩ = givenIn later ⟨.principals listing, g⟩

/-- A call for a page has nothing to note before it asks the server: its token cannot be read, or
the built-in names have been noted. -/
def Spared (text : String) (listing : PrincipalListing) : Prop :=
  (∀ t, PageToken.decode text ≠ .ok t) ∨
    ∀ name ∈ listing.principal.builtIn, name ∈ listing.seen

theorem leavesAlone_iff (hfail : Catalog.list text ⟨.principals listing, g⟩ = .error e l') :
    LeavesAlone text listing l' ↔ Spared text listing := by
  have hown : LeavesAlone text listing l' ↔ l'.own = .principals listing :=
    ⟨LeavesAlone.own_eq, fun heq =>
      ⟨heq, fun _ _ _ hpage => heq ▸ hpage, fun _ _ => by rw [heq]⟩⟩
  rw [hown, Spared]
  cases ht : PageToken.decode text with
  | error fault =>
    rw [list_of_unreadable ht] at hfail
    cases hfail
    exact iff_of_true rfl (.inl nofun)
  | ok t =>
    rw [own_of_list_error ht hfail, Catalog.principals.injEq, turned_nil_eq_iff]
    refine (or_iff_right fun hunreadable => ?_).symm
    exact hunreadable t rfl

/-- What a listing gives later holds no name that has been noted. -/
theorem notMem_givenIn (events : List Event) (hown : l.own = .principals listing)
    (hseen : name ∈ listing.seen) :
    Resource.ofPrincipal listing.principal.kind name ∉ givenIn events l := by
  obtain ⟨names, hgiven, -, hnew⟩ := names_of_givenIn events hown
  rw [hgiven]
  intro hmem
  obtain ⟨other, hother, heq⟩ := List.mem_map.1 hmem
  obtain rfl : other = name := congrArg (ResourceRef.object ∘ Resource.ref) heq
  exact hnew other hother hseen

/-- A failed page leaves a listing as it was exactly if the call had nothing to note before it asked
the server. Otherwise the same call gives its page without the built-in names, and nothing ever gives
them. A new listing has nothing left to note if it is one of users, or as soon as it has been asked
for a page by a token that can be read. -/
theorem failed_page_exact
    (hfail : Catalog.list text ⟨.principals listing, g⟩ = .error e l') :
    (LeavesAlone text listing l' ↔ Spared text listing) ∧
    (¬ Spared text listing → listing.fresh [] ≠ [] ∧
      (∀ h page m, Catalog.list text ⟨.principals listing, h⟩ = .ok page m →
        ∃ rest, page.items = resources listing.principal (listing.fresh []) ++ rest ∧
          Catalog.list text ⟨l'.own, h⟩ = .ok ⟨rest, page.next⟩ m) ∧
      ∀ later h, ∀ r ∈ resources listing.principal listing.principal.builtIn,
        r ∉ givenIn later ⟨l'.own, h⟩) ∧
    ∀ principal gateway events,
      behind events ⟨.principals { principal }, gateway⟩ = ⟨.principals listing, g⟩ →
        (Spared text listing ↔ principal = .user ∨ (∀ t, PageToken.decode text ≠ .ok t) ∨
          ∃ event ∈ events, event.Reads) := by
  refine ⟨leavesAlone_iff hfail, fun hnot => ?_, ?_⟩
  · -- The token could be read, so the call noted the built-in names before it failed.
    obtain ⟨hreadable, hunnoted⟩ := not_or.1 hnot
    obtain ⟨t, ht⟩ := Classical.not_forall_not.1 hreadable
    have hown : l'.own = .principals (listing.turned []) := own_of_list_error ht hfail
    refine ⟨fun hnil => hunnoted (turned_nil_eq_iff.1 ?_), ?_, ?_⟩
    · rw [turned, hnil, List.append_nil]
    · intro h page m hpage
      rw [hown]
      exact list_turned_nil hpage
    · intro later h r hr
      obtain ⟨name, hname, rfl⟩ := List.mem_map.1 hr
      have hnever : Resource.ofPrincipal (listing.turned []).principal.kind name ∉
          givenIn later ⟨.principals (listing.turned []), h⟩ :=
        notMem_givenIn later rfl (mem_seen_turned hname [])
      rw [hown]
      exact hnever
  · -- A new listing has noted nothing, and nothing is built in among users.
    intro principal gateway events hbehind
    obtain ⟨listing', hown', hprincipal, hiff⟩ :=
      own_behind events (l := ⟨.principals { principal }, gateway⟩) rfl
    rw [hbehind] at hown'
    obtain rfl : listing = listing' := Catalog.principals.inj hown'
    have hnew : (∀ name ∈ principal.builtIn, name ∈ ({ principal } : PrincipalListing).seen) ↔
        principal = .user := by
      cases principal <;> decide
    rw [Spared, hprincipal, hiff, hnew]
    exact or_left_comm

/-- The next call for the bindings of namespaces is given up while it waits. -/
def givingUp : ArmedFailure where
  call := ListName.roleBindings.callName
  failure := .cancelled

/-- A listing of groups that has given its first page is left as it was when the same page is asked
for again and given up. -/
theorem failed_page_exact_groups : ∃ listing g l',
    behind [.ask "", .outside (.arm givingUp)]
        ⟨.principals { principal := .group }, groupGateway⟩ = ⟨.principals listing, g⟩ ∧
      Catalog.list "" ⟨.principals listing, g⟩ = .error .cancelled l' ∧
        LeavesAlone "" listing l' := by
  have hbehind : ∃ g, behind [.ask "", .outside (.arm givingUp)]
      ⟨.principals { principal := .group }, groupGateway⟩ =
        ⟨.principals ⟨.group, PrincipalKind.builtIn .group⟩, g⟩ ∧
      ∃ l', Catalog.list "" ⟨.principals ⟨.group, PrincipalKind.builtIn .group⟩, g⟩ =
        .error .cancelled l' :=
    ⟨_, rfl, _, rfl⟩
  obtain ⟨g, hbehind, l', hfail⟩ := hbehind
  obtain ⟨hiff, -, hreached⟩ := failed_page_exact hfail
  have hspared : Spared "" ⟨.group, PrincipalKind.builtIn .group⟩ :=
    (hreached .group groupGateway _ hbehind).2 (.inr (.inr ⟨_, List.mem_cons_self, {}, rfl⟩))
  exact ⟨_, g, l', hbehind, hfail, hiff.2 hspared⟩

/-- A new listing of groups whose first page is given up never gives the built-in groups: they stand
on the page that it would have given, and not on the one that it gives when asked again. -/
theorem not_leavesAlone_givingUp : ∃ l' page m again m',
    Catalog.list "" ⟨.principals { principal := .group },
        { groupGateway with failures := [givingUp] }⟩ = .error .cancelled l' ∧
      Catalog.list "" ⟨.principals { principal := .group }, l'.gateway⟩ = .ok page m ∧
      page.items = resources .group
        ["system:masters", "system:authenticated", "system:unauthenticated"] ∧
      Catalog.list "" l' = .ok again m' ∧ again.items = [] ∧
      ¬ LeavesAlone "" { principal := .group } l' := by
  refine ⟨_, _, _, _, _, rfl, rfl, rfl, rfl, rfl, fun halone => ?_⟩
  have hseen := Catalog.principals.inj halone.own_eq
  exact absurd (congrArg PrincipalListing.seen hseen) (by decide)

end ClusterAccess.PrincipalListing
