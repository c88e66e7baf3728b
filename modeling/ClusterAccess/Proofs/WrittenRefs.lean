/-
  ClusterAccess.Proofs.WrittenRefs

  References written as texts and read back. An object in a namespace is written
  with one slash and is cut at every slash, a reference with its kind in front is
  written with a colon and is cut at the first one only. Both ways of writing are
  undone by reading, and reading accepts nothing else. Only `*/*` is read and not
  given back: the namespace `*` and the name `*` together are written as the whole
  kind.
-/
import Mathlib.Logic.Function.Basic
import ClusterAccess.Proofs.ObjectParts

namespace ClusterAccess

/-! ## Parts -/

namespace Text

variable {sep : Char} {cs front back : List Char}

theorem parts_eq_splitOn (sep : Char) (cs : List Char) : parts sep cs = cs.splitOn sep := by
  induction cs with
  | nil => rfl
  | cons c cs ih =>
    rw [parts, List.splitOn_cons_eq_if_modifyHead, ih]
    by_cases hc : c = sep
    case pos => simp [hc]
    case neg =>
      cases hrest : cs.splitOn sep with
      | nil => exact absurd hrest (List.splitOn_ne_nil sep cs)
      | cons part rest => simp [hc, onFirst]

/-- A text has two parts if a separator stands between them, and nowhere else. -/
theorem parts_eq_pair_iff :
    parts sep cs = [front, back] ↔ cs = front ++ sep :: back ∧ sep ∉ front ∧ sep ∉ back := by
  constructor
  · intro h
    have hfront : front ∈ parts sep cs := by simp [h]
    have hback : back ∈ parts sep cs := by simp [h]
    refine ⟨?_, sep_notMem_of_mem_parts hfront, sep_notMem_of_mem_parts hback⟩
    -- The parts with the separator between them are the text again.
    have hjoin : [sep].intercalate (cs.splitOn sep) = cs := List.intercalate_splitOn sep
    rw [← parts_eq_splitOn, h] at hjoin
    simpa using hjoin.symm
  · rintro ⟨rfl, hfront, hback⟩
    rw [parts_append_cons back hfront, parts_eq_self hback]

end Text

/-! ## Namespace and name -/

namespace ResourceRef

variable {kind : ResourceKind} {ref : ResourceRef} {text ns name : String}

/-- An object part gives a namespace and a name if these are not empty, hold no slash, and stand
in it with a slash between them. -/
theorem splitNamespaced_eq_ok_iff :
    splitNamespaced text = .ok (ns, name) ↔
      text = ns ++ "/" ++ name ∧ ns ≠ "" ∧ '/' ∉ ns.toList ∧ name ≠ "" ∧ '/' ∉ name.toList := by
  constructor
  · intro h
    unfold splitNamespaced at h
    split at h
    next front back hparts =>
      split at h
      next => cases h
      next hne =>
        obtain ⟨hfront, hback⟩ := not_or.1 hne
        obtain ⟨htext, hfrontSlash, hbackSlash⟩ := Text.parts_eq_pair_iff.1 hparts
        cases h
        refine ⟨?_, by simpa using hfront, by simpa using hfrontSlash, by simpa using hback,
          by simpa using hbackSlash⟩
        rw [← String.toList_inj, toList_namespaced, String.toList_ofList, String.toList_ofList]
        exact htext
    next => cases h
  · rintro ⟨rfl, hns, hnsSlash, hname, hnameSlash⟩
    exact splitNamespaced_namespaced hns hnsSlash hname hnameSlash

/-- The object parts with a namespace and a name are those with one slash and something on either
side of it. -/
theorem exists_splitNamespaced_iff :
    (∃ parts, splitNamespaced text = .ok parts) ↔
      text.toList.count '/' = 1 ∧
        ∃ front back, front ≠ "" ∧ back ≠ "" ∧ text = front ++ "/" ++ back := by
  have hcount : ∀ front back : String, (front ++ "/" ++ back).toList.count '/' =
      front.toList.count '/' + back.toList.count '/' + 1 := by
    intro front back
    rw [toList_namespaced, List.count_append, List.count_cons_self]
    omega
  constructor
  · rintro ⟨⟨ns, name⟩, h⟩
    obtain ⟨rfl, hns, hnsSlash, hname, hnameSlash⟩ := splitNamespaced_eq_ok_iff.1 h
    refine ⟨?_, ns, name, hns, hname, rfl⟩
    rw [hcount, List.count_eq_zero.2 hnsSlash, List.count_eq_zero.2 hnameSlash]
  · rintro ⟨hone, front, back, hfront, hback, rfl⟩
    -- The one slash is the one in between, so none is left for the sides.
    rw [hcount] at hone
    have hfrontSlash : '/' ∉ front.toList := List.count_eq_zero.1 (by omega)
    have hbackSlash : '/' ∉ back.toList := List.count_eq_zero.1 (by omega)
    exact ⟨_, splitNamespaced_namespaced hfront hfrontSlash hback hbackSlash⟩

/-- A namespace and a name are read back from the reference that they give exactly if they are not
empty, have no slash, and are not `*` both. -/
theorem makeNamespaced_split_iff :
    (makeNamespaced kind ns name >>= fun ref => splitNamespaced ref.object) = .ok (ns, name) ↔
      ns ≠ "" ∧ '/' ∉ ns.toList ∧ name ≠ "" ∧ '/' ∉ name.toList ∧
        ¬ (ns = wildcard ∧ name = wildcard) := by
  by_cases hwhole : ns = wildcard ∧ name = wildcard
  case pos =>
    -- The whole kind has no namespace and no name.
    rw [makeNamespaced_of_whole kind hwhole]
    show splitNamespaced (all kind).object = _ ↔ _
    rw [splitNamespaced_eq_ok_iff]
    exact iff_of_false (fun h => namespaced_ne_wildcard h.1.symm) fun h => h.2.2.2.2 hwhole
  case neg =>
    by_cases hempty : ns = "" ∨ name = ""
    case pos =>
      have hmake : makeNamespaced kind ns name = .error (.incomplete kind ns name) := by
        rw [makeNamespaced, if_neg hwhole, if_pos hempty]
      rw [hmake]
      refine iff_of_false (fun h => by cases h) ?_
      rintro ⟨hns, -, hname, -⟩
      exact hempty.elim hns hname
    case neg =>
      obtain ⟨hns, hname⟩ := not_or.1 hempty
      rw [makeNamespaced_of_parts kind hns hname hwhole]
      show splitNamespaced (ns ++ "/" ++ name) = _ ↔ _
      simp only [splitNamespaced_eq_ok_iff, hwhole, true_and, not_false_eq_true, and_true]

/-- An object part is given back by its namespace and its name, unless both are `*`. -/
theorem splitNamespaced_make_iff :
    (splitNamespaced text >>= fun parts => makeNamespaced kind parts.1 parts.2) =
        .ok ⟨kind, text⟩ ↔
      (∃ parts, splitNamespaced text = .ok parts) ∧ text ≠ "*/*" := by
  cases hsplit : splitNamespaced text with
  | error fault =>
    refine iff_of_false (fun h => by cases h) ?_
    rintro ⟨⟨parts, h⟩, -⟩
    cases h
  | ok parts =>
    obtain ⟨ns, name⟩ := parts
    obtain ⟨htext, hns, -, hname, -⟩ := splitNamespaced_eq_ok_iff.1 hsplit
    have hstars : text = "*/*" ↔ ns = wildcard ∧ name = wildcard := by
      constructor
      · rintro rfl
        have hread : splitNamespaced "*/*" = .ok (wildcard, wildcard) :=
          splitNamespaced_eq_ok_iff.2 (by decide)
        rw [hread] at hsplit
        cases hsplit
        exact ⟨rfl, rfl⟩
      · rintro ⟨rfl, rfl⟩
        exact htext
    rw [and_iff_right ⟨_, rfl⟩, ne_eq, hstars]
    show makeNamespaced kind ns name = _ ↔ _
    by_cases hwhole : ns = wildcard ∧ name = wildcard
    case pos =>
      rw [makeNamespaced_of_whole kind hwhole, Except.ok.injEq]
      refine iff_of_false (fun h => ?_) fun h => h hwhole
      exact namespaced_ne_wildcard (htext.symm.trans (congrArg object h).symm)
    case neg =>
      rw [makeNamespaced_of_parts kind hns hname hwhole, htext]
      exact iff_of_true rfl hwhole

/-! ## Kind and object -/

/-- A text is read as a reference if it is what the reference is written as, and the object part is
not empty. -/
theorem ofText_eq_ok_iff : ofText text = .ok ref ↔ ref.text = text ∧ ref.object ≠ "" := by
  constructor
  · intro h
    unfold ofText at h
    split at h
    next kindName object hcut =>
      split at h
      next kind hkind =>
        unfold make at h
        split at h
        next => cases h
        next hobject =>
          cases h
          refine ⟨?_, hobject⟩
          -- What is cut at the colon is put together again.
          have hjoin := Text.cut_join ':' text.toList
          rw [hcut] at hjoin
          rw [← String.toList_inj, ← hjoin]
          simp [ResourceRef.text, ResourceKind.id_eq_of_ofId? hkind]
      next => cases h
    next => cases h
  · rintro ⟨rfl, hobject⟩
    rw [ofText, cut_text]
    simp only [String.ofList_toList, ResourceKind.ofId?_id, make, if_neg hobject]

/-- References and the texts that they are written as determine each other. A namespace and a name
are read back from the reference to the object exactly if they are not empty, have no slash, and are
not `*` both. An object part is given back by the namespace and the name that are read from it,
unless it is `*/*`, and these are read from it exactly if it has one slash and something on either
side. A text is read as a reference with its kind in front exactly if that is what the reference is
written as and its object part is not empty; and no two references are written alike. -/
theorem written_refs_read_back :
    (∀ kind ns name,
      (makeNamespaced kind ns name >>= fun ref => splitNamespaced ref.object) = .ok (ns, name) ↔
        ns ≠ "" ∧ '/' ∉ ns.toList ∧ name ≠ "" ∧ '/' ∉ name.toList ∧
          ¬ (ns = wildcard ∧ name = wildcard)) ∧
    (∀ kind text,
      (splitNamespaced text >>= fun parts => makeNamespaced kind parts.1 parts.2) =
          .ok ⟨kind, text⟩ ↔
        (∃ parts, splitNamespaced text = .ok parts) ∧ text ≠ "*/*") ∧
    (∀ text, (∃ parts, splitNamespaced text = .ok parts) ↔
      text.toList.count '/' = 1 ∧
        ∃ front back, front ≠ "" ∧ back ≠ "" ∧ text = front ++ "/" ++ back) ∧
    (∀ text ref, ofText text = .ok ref ↔ ref.text = text ∧ ref.object ≠ "") ∧
    Function.Injective ResourceRef.text := by
  refine ⟨?_, ?_, ?_, ?_, ?_⟩
  · intro kind ns name
    exact makeNamespaced_split_iff
  · intro kind text
    exact splitNamespaced_make_iff
  · intro text
    exact exists_splitNamespaced_iff
  · intro text ref
    exact ofText_eq_ok_iff
  · intro r₁ r₂ h
    exact text_injective h

/-- Separators inside an object part are kept: only the first colon counts. -/
example : ofText "kube_user:https://issuer/alice" = .ok ⟨.user, "https://issuer/alice"⟩ :=
  rfl

end ResourceRef
end ClusterAccess
