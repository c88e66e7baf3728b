/-
  ClusterAccess.Proofs.PageHalves

  A call for a page of a listing in two halves: what it does before it waits for
  the server, and what it does with the answer. Others may do the same in between,
  so the two halves together are the call only where nobody does.
-/
import ClusterAccess.Proofs.ListingCalls
import ClusterAccess.Proofs.PagesAlone

namespace ClusterAccess

open ClusterAccess.Action

theorem TimedCache.update_update {κ α : Type} [DecidableEq κ] (c : TimedCache κ α) (key : κ)
    (value value' : α) :
    (c.update key fun _ => value).update key (fun _ => value') = c.update key fun _ => value' := by
  rw [update, update, update, List.map_map]
  congr 1
  refine List.map_congr_left fun e _ => ?_
  by_cases he : e.key = key <;> simp [he]

namespace Auditor

/-- A page that the server is asked for: of which listing, by which catalogue and token, and what
has been given for it. -/
structure Awaited where
  id : String
  catalog : Catalog
  token : PageToken
  given : List Resource

/-- Begins the listing of a token, or finds it again. -/
def findListing (c : Catalog) (t : PageToken) : Action Auditor (String × Catalog) :=
  match t.listing with
  | none => beginListing c
  | some id => resumeListing c.kind id

/-- The auditor behind the first half of a page of a listing. -/
def behindAsk (a : Auditor) (id : String) (c : Catalog) : Auditor :=
  { a with listings := a.listings.update id fun _ => c.prepare.2 }

/-- A call up to the point where it waits: its listing is begun or found again, and the catalogue
has given what needs no server. -/
def askPage (kindName token : String) : Action Auditor Awaited := do
  let c ← catalog kindName
  let t ← ofExcept .token (PageToken.decode token)
  let (id, c) ← findListing c t
  modify fun a => a.behindAsk id c
  pure ⟨id, c.prepare.2, t, c.prepare.1⟩

/-- The rest of a call: the answer of the server, and the close of the page. -/
def answerPage (p : Awaited) : Action Auditor (Page Resource) :=
  servePage p.id p.catalog (Catalog.complete p.token p.given)

variable {kindName token id : String} {a : Auditor} {c : Catalog} {t : PageToken}

/-- The two halves of a page are the page. -/
theorem servePage_eq_halves (ht : PageToken.decode token = .ok t) (id : String) (c : Catalog)
    (a : Auditor) : servePage id c (Catalog.list token) a =
      answerPage ⟨id, c.prepare.2, t, c.prepare.1⟩ (a.behindAsk id c) := by
  rw [answerPage]
  have hlist := Catalog.list_eq_complete ht c a.gateway
  cases hrun : Catalog.list token ⟨c, a.gateway⟩ with
  | error e l =>
    have hsame : (a.behindAsk id c).behindPage id l = a.behindPage id l := by
      simp only [behindPage, behindAsk, TimedCache.update_update]
    rw [servePage_error hrun,
      servePage_error (a := a.behindAsk id c) (hlist.symm.trans hrun), hsame]
  | ok page l =>
    have hsame : (a.behindAsk id c).behindPage id l = a.behindPage id l := by
      simp only [behindPage, behindAsk, TimedCache.update_update]
    obtain ⟨items, next⟩ := page
    cases next with
    | none =>
      rw [servePage_last hrun,
        servePage_last (a := a.behindAsk id c) (hlist.symm.trans hrun), hsame]
    | some next =>
      obtain ⟨t', ht'⟩ := Catalog.hasReadableNext_of_list hrun next rfl
      rw [servePage_more hrun ht',
        servePage_more (a := a.behindAsk id c) (hlist.symm.trans hrun) ht', hsame]

/-- Once its token is read, a call begins its listing or finds it again, and waits. -/
theorem askPage_apply (hkind : catalogOf? a.catalogs kindName = some c)
    (htoken : PageToken.decode token = .ok t) :
    askPage kindName token a = match findListing c t a with
      | .ok x a' => .ok ⟨x.1, x.2.prepare.2, t, x.2.prepare.1⟩ (a'.behindAsk x.1 x.2)
      | .error e a' => .error e a' := by
  rw [askPage, bind_eq_ok (catalog_apply hkind), htoken]
  show (findListing c t >>= _) a = _
  rw [bind_apply]
  cases findListing c t a <;> rfl

/-- A call that nobody gets between is its two halves. -/
theorem listPage_eq_halves (kindName token : String) :
    listPage kindName token = askPage kindName token >>= answerPage := by
  funext a
  cases hkind : catalogOf? a.catalogs kindName with
  | none =>
    rw [listPage_of_noCatalog hkind, bind_apply]
    simp only [askPage, catalog, bind_apply, get_apply, hkind]
    rfl
  | some c =>
    cases htoken : PageToken.decode token with
    | error e =>
      rw [listPage_of_unreadable hkind htoken, bind_apply, askPage,
        bind_eq_ok (catalog_apply hkind), htoken]
      rfl
    | ok t =>
      have hfind : listPage kindName token a = (do
          let x ← findListing c t
          servePage x.1 x.2 (Catalog.list token)) a := by
        rw [listPage_apply hkind htoken, findListing]
        cases t.listing <;> rfl
      rw [hfind, bind_apply, bind_apply, askPage_apply hkind htoken]
      cases findListing c t a with
      | error e a' => rfl
      | ok x a' => exact servePage_eq_halves htoken x.1 x.2 a'

end Auditor
end ClusterAccess
