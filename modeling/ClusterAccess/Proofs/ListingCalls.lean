/-
  ClusterAccess.Proofs.ListingCalls

  One call for a page of a listing, step by step: how its listing is begun or found
  again, what is left when the page cannot be read, and how the page is closed.
  The ids of listings are all different, and the token of every next page can be
  read.
-/
import ClusterAccess.Auditor
import ClusterAccess.Proofs.CatalogPages
import ClusterAccess.Proofs.CacheViews
import Mathlib.Algebra.Group.Nat.Defs

namespace ClusterAccess

open ClusterAccess.Action

/-! ## Ids -/

namespace Text

/-- The number that hexadecimal digits write. -/
def hexNumber (digits : List Char) : Nat :=
  digits.foldl (fun n digit => 16 * n + (hexValue? digit).getD 0) 0

theorem hexValue?_hexDigit {n : Nat} (h : n < 16) : hexValue? (hexDigit n) = some n := by
  have hall : ∀ i : Fin 16, hexValue? (hexDigit i) = some i.val := by decide
  exact hall ⟨n, h⟩

/-- The last digits of a number write what is left of it behind the others. -/
theorem hexNumber_hex (width n : Nat) : hexNumber (hex width n) = n % 16 ^ width := by
  induction width generalizing n with
  | zero => simp [hex, hexNumber, Nat.mod_one]
  | succ width ih =>
    have hlast := hexValue?_hexDigit (Nat.mod_lt n (by decide : 0 < 16))
    have hfront := ih (n / 16)
    rw [hexNumber] at hfront ⊢
    rw [hex, List.foldl_append, hfront, List.foldl_cons, List.foldl_nil, hlast, Option.getD_some,
      Nat.pow_succ, Nat.mul_comm (16 ^ width), Nat.mod_mul, Nat.add_comm]

theorem lt_pow_width (width n : Nat) : n < 16 ^ (max width (n.log2 / 4 + 1)) := by
  have hlog : n < 2 ^ (n.log2 + 1) := Nat.lt_log2_self
  have hfour : n.log2 + 1 ≤ 4 * max width (n.log2 / 4 + 1) := by omega
  calc n < 2 ^ (n.log2 + 1) := hlog
    _ ≤ 2 ^ (4 * max width (n.log2 / 4 + 1)) := Nat.pow_le_pow_right (by decide) hfour
    _ = 16 ^ max width (n.log2 / 4 + 1) := by rw [Nat.pow_mul]

/-- Two numbers are never written alike. -/
theorem hexAtLeast_injective {width m n : Nat} (h : hexAtLeast width m = hexAtLeast width n) :
    m = n := by
  have hnumber := congrArg hexNumber h
  rw [hexAtLeast, hexAtLeast, hexNumber_hex, hexNumber_hex, Nat.mod_eq_of_lt (lt_pow_width _ _),
    Nat.mod_eq_of_lt (lt_pow_width _ _)] at hnumber
  exact hnumber

end Text

namespace Auditor

/-- No two listings have the same id. -/
theorem listingId_injective {m n : Nat} (h : listingId m = listingId n) : m = n :=
  Text.hexAtLeast_injective (String.ofList_injective h)

end Auditor

/-! ## Tokens of next pages -/

namespace Catalog

/-- The next page of a page has a token that can be read, if there is one. -/
def HasReadableNext (page : Page Resource) : Prop :=
  ∀ next, page.next = some next → ∃ t, PageToken.decode next = .ok t

theorem hasReadableNext_of_map {items : List Resource} (t : Option PageToken) :
    HasReadableNext ⟨items, t.map PageToken.encode⟩ := by
  intro next hnext
  obtain ⟨t, -, rfl⟩ := Option.map_eq_some_iff.1 hnext
  exact ⟨t, PageToken.decode_encode t⟩

theorem hasReadableNext_next {items : List Resource} (place : Option String) :
    HasReadableNext ⟨items, PageToken.next place⟩ := by
  intro next hnext
  cases place with
  | none => cases hnext
  | some place =>
    simp only [PageToken.next] at hnext
    split at hnext
    · cases hnext
    · cases hnext
      exact ⟨_, PageToken.decode_encode _⟩

variable {P : Linked Catalog → Prop}

theorem gives_listPaged {α : Type} (kind : ResourceKind) (fetch : Option String → Fetch (Page α))
    (toResource : α → Except RefFault Resource) (t : PageToken) :
    Gives (fun _ => True) (listPaged kind fetch toResource t) HasReadableNext := by
  intro g page g' _ hrun
  obtain ⟨found, mid, -, hrest⟩ := bind_ok hrun
  obtain ⟨_, _, hget, hrest⟩ := bind_ok hrest
  cases hget
  cases hrest
  exact ⟨trivial, hasReadableNext_next _⟩

/-- Whatever a catalogue lists, the next page can be asked for. -/
theorem hasReadableNext_of_list {token : String} {l l' : Linked Catalog} {page : Page Resource}
    (h : list token l = .ok page l') : HasReadableNext page := by
  obtain ⟨t, mid, htoken, hrest⟩ := bind_ok h
  have hfetch : ∀ {act : Fetch (Page Resource)} {l l' : Linked Catalog},
      Gives (fun _ => True) act HasReadableNext → Linked.fetch act l = .ok page l' →
        HasReadableNext page := by
    intro act l l' hact hrun
    obtain ⟨g, hg, -⟩ := onPart_ok hrun
    exact (hact _ _ _ trivial hg).2
  obtain ⟨own, _, hget, hrest⟩ := bind_ok hrest
  cases hget
  cases hown : mid.own with
  | inventory i =>
    rw [hown] at hrest
    exact hfetch (gives_listPaged _ _ _ _) hrest
  | roles =>
    rw [hown] at hrest
    exact hfetch (gives_listPaged _ _ _ _) hrest
  | clusterRoles cache =>
    rw [hown] at hrest
    exact hfetch (gives_listPaged _ _ _ _) hrest
  | principals listing =>
    rw [hown] at hrest
    obtain ⟨s, hs, -⟩ := onPart_ok hrest
    obtain ⟨_, _, -, hs⟩ := bind_ok hs
    obtain ⟨_, _, -, hs⟩ := bind_ok hs
    obtain ⟨_, _, -, hs⟩ := bind_ok hs
    obtain ⟨_, _, -, hs⟩ := bind_ok hs
    cases hs
    exact hasReadableNext_of_map _

end Catalog

/-! ## Closing a page -/

namespace TimedCache

variable {κ α : Type} [DecidableEq κ]

/-- What is kept under other keys is as it was. -/
theorem filter_view_update (c : TimedCache κ α) (now : Int) (key : κ) (f : α → α) :
    ((c.update key f).view now).filter (fun e => e.key ≠ key) =
      (c.view now).filter fun e => e.key ≠ key := by
  rw [view_update]
  induction c.view now with
  | nil => rfl
  | cons e entries ih =>
    rw [List.map_cons, List.filter_cons, List.filter_cons, ih]
    by_cases he : e.key = key <;> simp [he]

theorem map_update_filter (entries : List (CacheEntry κ α)) (key : κ) (f : α → α) :
    (entries.filter fun e => e.key ≠ key).map
        (fun e => if e.key = key then { e with value := f e.value } else e) =
      entries.filter fun e => e.key ≠ key := by
  refine (List.map_congr_left fun e he => if_neg ?_).trans (List.map_id' _)
  simpa using (List.mem_filter.1 he).2

theorem view_erase_update (c : TimedCache κ α) (now : Int) (key : κ) (f : α → α) :
    ((c.update key f).erase key).view now = (c.view now).filter fun e => e.key ≠ key := by
  rw [view_erase, filter_view_update]

theorem view_insert_update (c : TimedCache κ α) (now : Int) (key : κ) (f : α → α) (value : α) :
    ((c.update key f).insert now key value).view now = (c.insert now key value).view now := by
  rw [view_insert, view_insert, filter_view_update]
  rfl

end TimedCache

namespace Auditor

variable {kindName token id : String} {a : Auditor} {c : Catalog} {l : Linked Catalog}
  {act : Action (Linked Catalog) (Page Resource)} {items : List Resource}

/-- A page of a listing, by an action of its catalogue, and its close. -/
def servePage (id : String) (c : Catalog) (act : Action (Linked Catalog) (Page Resource)) :
    Action Auditor (Page Resource) := do
  let (page, c) ← onCatalog c (fun c a => { a with listings := a.listings.update id fun _ => c }) do
    let page ← act
    let l ← get
    pure (page, l.own)
  closePage id c page

/-- The auditor behind a page that has been asked for, however that ended. -/
def behindPage (a : Auditor) (id : String) (l : Linked Catalog) : Auditor :=
  { a with gateway := l.gateway, listings := a.listings.update id fun _ => l.own }

/-- A page that cannot be read changes the catalogue of its listing at most. -/
theorem servePage_error {e : Fault} (h : act ⟨c, a.gateway⟩ = .error e l) :
    servePage id c act a = .error e (a.behindPage id l) := by
  simp only [servePage, onCatalog, Action.onPart, bind_apply, h]
  rfl

/-- The last page of a listing ends it. -/
theorem servePage_last (h : act ⟨c, a.gateway⟩ = .ok ⟨items, none⟩ l) :
    servePage id c act a = .ok ⟨items, none⟩ { a.behindPage id l with
      listings := (a.behindPage id l).listings.erase id } := by
  simp only [servePage, onCatalog, Action.onPart, bind_apply, h]
  rfl

/-- Any other page stores the listing with the time, and says in its token which listing it is. -/
theorem servePage_more {next : String} {t : PageToken}
    (h : act ⟨c, a.gateway⟩ = .ok ⟨items, some next⟩ l) (ht : PageToken.decode next = .ok t) :
    servePage id c act a =
      .ok ⟨items, some (PageToken.encode { t with listing := some id })⟩ { a.behindPage id l with
        listings := (a.behindPage id l).listings.insert l.gateway.clock id l.own } := by
  simp only [servePage, onCatalog, Action.onPart, bind_apply, h]
  simp only [closePage, bind_apply, pure_apply, get_apply, ht]
  rfl

/-! ## Whole calls -/

theorem catalog_apply (hkind : catalogOf? a.catalogs kindName = some c) :
    catalog kindName a = .ok c a := by
  simp only [catalog, bind_apply, get_apply, hkind]
  rfl

/-- A kind without a catalogue has no pages. -/
theorem listPage_of_noCatalog (hkind : catalogOf? a.catalogs kindName = none) :
    listPage kindName token a = .error (.noCatalog kindName) a := by
  simp only [listPage, catalog, bind_apply, get_apply, hkind]
  rfl

/-- A text that is no token is refused before anything else. -/
theorem listPage_of_unreadable {e : TokenFault} (hkind : catalogOf? a.catalogs kindName = some c)
    (htoken : PageToken.decode token = .error e) :
    listPage kindName token a = .error (.token e) a := by
  rw [listPage, bind_eq_ok (catalog_apply hkind), htoken]
  rfl

variable {t : PageToken}

/-- Once its token is read, a call begins a listing or finds it again, and asks for its page. -/
theorem listPage_apply (hkind : catalogOf? a.catalogs kindName = some c)
    (htoken : PageToken.decode token = .ok t) :
    listPage kindName token a = (do
      let x ← match t.listing with
        | none => beginListing c
        | some id => resumeListing c.kind id
      servePage x.1 x.2 (Catalog.list token)) a := by
  rw [listPage, bind_eq_ok (catalog_apply hkind), htoken]
  rfl

/-- A new listing has the next id and a new catalogue. -/
theorem beginListing_apply (hkind : catalogOf? a.catalogs kindName = some c)
    (hcatalogs : a.catalogs = freshCatalogs a.settings) :
    beginListing c a = .ok (listingId (a.issued + 1), c) { a with issued := a.issued + 1 } := by
  have hname : c.kind.id = kindName := by simpa using List.find?_some hkind
  have hfresh : (catalogOf? (freshCatalogs a.settings) c.kind.id).getD c = c := by
    rw [hname, ← hcatalogs, hkind]
    rfl
  show EStateM.Result.ok (listingId (a.issued + 1), _) _ = _
  rw [hfresh]

/-- A token without a listing begins a new one. -/
theorem listPage_of_new (hkind : catalogOf? a.catalogs kindName = some c)
    (hcatalogs : a.catalogs = freshCatalogs a.settings) (htoken : PageToken.decode token = .ok t)
    (hlisting : t.listing = none) :
    listPage kindName token a = servePage (listingId (a.issued + 1)) c (Catalog.list token)
      { a with issued := a.issued + 1 } := by
  rw [listPage_apply hkind htoken, hlisting]
  exact bind_eq_ok (beginListing_apply hkind hcatalogs)

/-- The auditor behind a look at a listing, which counts as use. -/
def behindLook (a : Auditor) (id : String) : Auditor :=
  { a with listings := a.listings.touch a.gateway.clock id }

theorem resumeListing_of_kept {kind : ResourceKind} {kept : Catalog}
    (hkept : a.listings.get? a.gateway.clock id = some kept) (hsame : kept.kind = kind) :
    resumeListing kind id a = .ok (id, kept) (a.behindLook id) := by
  simp only [resumeListing, bind_apply, get_apply, hkept, hsame, if_true]
  rfl

theorem resumeListing_of_not_kept {kind : ResourceKind}
    (hkept : ∀ kept, a.listings.get? a.gateway.clock id = some kept → kept.kind ≠ kind) :
    resumeListing kind id a = .error (.token (.notOpen kind)) (a.behindLook id) := by
  simp only [resumeListing, bind_apply, get_apply]
  cases hget : a.listings.get? a.gateway.clock id with
  | none => rfl
  | some kept =>
    simp only [hkept kept hget, if_false]
    rfl

/-- A listing is found again under its id if it is kept, and of the kind asked for. -/
theorem resumeListing_ok_iff {kind : ResourceKind} {found : Catalog} :
    (∃ a', resumeListing kind id a = .ok (id, found) a') ↔
      a.listings.get? a.gateway.clock id = some found ∧ found.kind = kind := by
  by_cases hkept : ∃ kept, a.listings.get? a.gateway.clock id = some kept ∧ kept.kind = kind
  · obtain ⟨kept, hget, hsame⟩ := hkept
    rw [resumeListing_of_kept hget hsame, hget]
    constructor
    · rintro ⟨a', heq⟩
      cases heq
      exact ⟨rfl, hsame⟩
    · rintro ⟨heq, -⟩
      cases heq
      exact ⟨_, rfl⟩
  · rw [resumeListing_of_not_kept fun kept hget hsame => hkept ⟨kept, hget, hsame⟩]
    constructor
    · rintro ⟨a', heq⟩
      cases heq
    · exact fun h => absurd ⟨found, h⟩ hkept

/-- A token of a listing goes on with the catalogue that is kept for it. -/
theorem listPage_of_kept (hkind : catalogOf? a.catalogs kindName = some c)
    (htoken : PageToken.decode token = .ok t) (hlisting : t.listing = some id) {kept : Catalog}
    (hkept : a.listings.get? a.gateway.clock id = some kept) (hsame : kept.kind = c.kind) :
    listPage kindName token a = servePage id kept (Catalog.list token) (a.behindLook id) := by
  rw [listPage_apply hkind htoken, hlisting]
  exact bind_eq_ok (resumeListing_of_kept hkept hsame)

/-- Where none is kept for it, or one of another kind, the token is refused. -/
theorem listPage_of_not_kept (hkind : catalogOf? a.catalogs kindName = some c)
    (htoken : PageToken.decode token = .ok t) (hlisting : t.listing = some id)
    (hkept : ∀ kept, a.listings.get? a.gateway.clock id = some kept → kept.kind ≠ c.kind) :
    listPage kindName token a = .error (.token (.notOpen c.kind)) (a.behindLook id) := by
  rw [listPage_apply hkind htoken, hlisting]
  show (resumeListing c.kind id >>= _) a = _
  rw [bind_apply, resumeListing_of_not_kept hkept]

/-! ## What stays of an auditor -/

/-- A call for a page leaves the settings, the catalogues for single questions and the bindings, it
leaves the gateway steady, and the cache of listings keeps its size and its time. -/
structure Follows (a a' : Auditor) : Prop where
  settings_eq : a'.settings = a.settings
  catalogs_eq : a'.catalogs = a.catalogs
  bindings_eq : a'.bindings = a.bindings
  ttl_eq : a'.listings.ttl = a.listings.ttl
  capacity_eq : a'.listings.capacity = a.listings.capacity
  gateway : Gateway.Steady a.gateway a'.gateway
  issued_le : a.issued ≤ a'.issued

theorem Follows.refl (a : Auditor) : Follows a a :=
  ⟨rfl, rfl, rfl, rfl, rfl, .refl _, Nat.le_refl _⟩

theorem Follows.trans {a a' a'' : Auditor} (h : Follows a a') (h' : Follows a' a'') :
    Follows a a'' where
  settings_eq := h'.settings_eq.trans h.settings_eq
  catalogs_eq := h'.catalogs_eq.trans h.catalogs_eq
  bindings_eq := h'.bindings_eq.trans h.bindings_eq
  ttl_eq := h'.ttl_eq.trans h.ttl_eq
  capacity_eq := h'.capacity_eq.trans h.capacity_eq
  gateway := h.gateway.trans h'.gateway
  issued_le := Nat.le_trans h.issued_le h'.issued_le

theorem keeps_catalog (kindName : String) : Keeps Follows (catalog kindName) := by
  refine keeps_get_bind fun a => ?_
  cases catalogOf? a.catalogs kindName with
  | none => exact Follows.refl a
  | some c => exact Follows.refl a

theorem keeps_beginListing (c : Catalog) : Keeps Follows (beginListing c) :=
  fun _ => ⟨rfl, rfl, rfl, rfl, rfl, .refl _, Nat.le_succ _⟩

theorem keeps_resumeListing (kind : ResourceKind) (id : String) :
    Keeps Follows (resumeListing kind id) := by
  intro a
  have hlook : Follows a (a.behindLook id) :=
    ⟨rfl, rfl, rfl, TimedCache.ttl_touch _ _ _, TimedCache.capacity_touch _ _ _, .refl _,
      Nat.le_refl _⟩
  by_cases hkept : ∃ kept, a.listings.get? a.gateway.clock id = some kept ∧ kept.kind = kind
  · obtain ⟨kept, hget, hsame⟩ := hkept
    rw [resumeListing_of_kept hget hsame]
    exact hlook
  · rw [resumeListing_of_not_kept fun kept hget hsame => hkept ⟨kept, hget, hsame⟩]
    exact hlook

theorem keeps_closePage (id : String) (c : Catalog) (page : Page Resource) :
    Keeps Follows (closePage id c page) := by
  refine keeps_get_bind fun a => ?_
  have hinsert : Follows a { a with listings := a.listings.insert a.gateway.clock id c } :=
    ⟨rfl, rfl, rfl, rfl, rfl, .refl _, Nat.le_refl _⟩
  cases page.next with
  | none => exact ⟨rfl, rfl, rfl, rfl, rfl, .refl _, Nat.le_refl _⟩
  | some next =>
    show Lands (Follows a) ((ofExcept Fault.token (PageToken.decode next) >>= _) _)
    cases PageToken.decode next with
    | ok t => exact hinsert
    | error e => exact hinsert

theorem keeps_servePage (id : String) (c : Catalog)
    {act : Action (Linked Catalog) (Page Resource)} (hact : Keeps Catalog.Stays act) :
    Keeps Follows (servePage id c act) := by
  have hpage : Keeps Catalog.Stays (do
      let page ← act
      let l ← get
      pure (page, l.own)) :=
    Keeps.bind Catalog.Stays.trans hact fun _ => keeps_get_bind fun l => Catalog.Stays.refl l
  refine Keeps.bind Follows.trans (hpage.onPart fun a l hl => ?_) fun x => keeps_closePage id _ _
  exact ⟨rfl, rfl, rfl, rfl, rfl, hl.gateway, Nat.le_refl _⟩

theorem keeps_listPage (kindName token : String) : Keeps Follows (listPage kindName token) := by
  refine Keeps.bind Follows.trans (keeps_catalog kindName) fun c => ?_
  refine Keeps.bind Follows.trans (keeps_ofExcept Follows.refl _ _) fun t => ?_
  have hserve : ∀ x : String × Catalog,
      Keeps Follows (servePage x.1 x.2 (Catalog.list token)) :=
    fun x => keeps_servePage x.1 x.2 (Catalog.keeps_list token)
  cases t.listing with
  | none => exact Keeps.bind Follows.trans (keeps_beginListing c) hserve
  | some id => exact Keeps.bind Follows.trans (keeps_resumeListing c.kind id) hserve

end Auditor
end ClusterAccess
