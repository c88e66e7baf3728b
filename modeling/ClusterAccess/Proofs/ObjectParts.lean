/-
  ClusterAccess.Proofs.ObjectParts

  The object part of a reference, built from a namespace and a name and taken
  apart again. A bare name has no namespace of its own: taken apart, it is all
  namespace part and no name part.
-/
import ClusterAccess.ResourceRef

namespace ClusterAccess

/-! ## Cutting -/

namespace Text

/-- A cut falls at the first separator. -/
theorem cut_append_cons {sep : Char} {front : List Char} (back : List Char) (h : sep ∉ front) :
    cut sep (front ++ sep :: back) = (front, some back) := by
  induction front with
  | nil => simp [cut]
  | cons c cs ih =>
    obtain ⟨hc, hcs⟩ : sep ≠ c ∧ sep ∉ cs := by simpa using h
    rw [List.cons_append, cut, if_neg (Ne.symm hc), ih hcs]

/-- Without a separator a text stands before the cut as a whole. -/
theorem cut_eq_self {sep : Char} {cs : List Char} (h : sep ∉ cs) : cut sep cs = (cs, none) := by
  induction cs with
  | nil => rfl
  | cons c cs ih =>
    obtain ⟨hc, hcs⟩ : sep ≠ c ∧ sep ∉ cs := by simpa using h
    rw [cut, if_neg (Ne.symm hc), ih hcs]

theorem parts_append_cons {sep : Char} {front : List Char} (back : List Char) (h : sep ∉ front) :
    parts sep (front ++ sep :: back) = front :: parts sep back := by
  induction front with
  | nil => simp [parts]
  | cons c cs ih =>
    obtain ⟨hc, hcs⟩ : sep ≠ c ∧ sep ∉ cs := by simpa using h
    rw [List.cons_append, parts, if_neg (Ne.symm hc), ih hcs, onFirst]

theorem parts_eq_self {sep : Char} {cs : List Char} (h : sep ∉ cs) : parts sep cs = [cs] := by
  induction cs with
  | nil => rfl
  | cons c cs ih =>
    obtain ⟨hc, hcs⟩ : sep ≠ c ∧ sep ∉ cs := by simpa using h
    rw [parts, if_neg (Ne.symm hc), ih hcs, onFirst]

end Text

/-! ## Namespace and name -/

namespace ResourceRef

/-- The object part of an object in a namespace. -/
theorem toList_namespaced (ns name : String) :
    (ns ++ "/" ++ name).toList = ns.toList ++ '/' :: name.toList := by
  simp

variable {kind : ResourceKind} {ns name : String}

theorem makeNamespaced_of_whole (kind : ResourceKind) (hwhole : ns = wildcard ∧ name = wildcard) :
    makeNamespaced kind ns name = .ok (all kind) :=
  if_pos hwhole

theorem makeNamespaced_of_parts (kind : ResourceKind) (hns : ns ≠ "") (hname : name ≠ "")
    (hwhole : ¬ (ns = wildcard ∧ name = wildcard)) :
    makeNamespaced kind ns name = .ok ⟨kind, ns ++ "/" ++ name⟩ := by
  rw [makeNamespaced, if_neg hwhole, if_neg (not_or.2 ⟨hns, hname⟩)]

theorem nsPart_namespaced (h : '/' ∉ ns.toList) :
    nsPart ⟨kind, ns ++ "/" ++ name⟩ = ns := by
  rw [nsPart, toList_namespaced, Text.cut_append_cons _ h, String.ofList_toList]

theorem namePart_namespaced (h : '/' ∉ ns.toList) :
    namePart ⟨kind, ns ++ "/" ++ name⟩ = name := by
  rw [namePart, toList_namespaced, Text.cut_append_cons _ h, Option.getD_some,
    String.ofList_toList]

/-- `ns/name` is taken apart into its namespace and its name. -/
theorem splitNamespaced_namespaced (hns : ns ≠ "") (hnsSlash : '/' ∉ ns.toList)
    (hname : name ≠ "") (hnameSlash : '/' ∉ name.toList) :
    splitNamespaced (ns ++ "/" ++ name) = .ok (ns, name) := by
  have hparts : ¬ (ns.toList = [] ∨ name.toList = []) := by simp [hns, hname]
  rw [splitNamespaced, toList_namespaced, Text.parts_append_cons _ hnsSlash,
    Text.parts_eq_self hnameSlash]
  simp only [hparts, if_false, String.ofList_toList]

theorem isWildcard_iff {ref : ResourceRef} : ref.isWildcard ↔ ref.object = wildcard := by
  simp only [isWildcard, beq_iff_eq]

/-- No object in a namespace stands for its whole kind. -/
theorem namespaced_ne_wildcard : ns ++ "/" ++ name ≠ wildcard := by
  intro heq
  -- The wildcard holds no slash.
  have hmem : '/' ∈ (ns ++ "/" ++ name).toList := by simp
  rw [heq] at hmem
  revert hmem
  decide

theorem isBare_iff {ref : ResourceRef} : ref.isBare ↔ '/' ∉ ref.object.toList := by
  simp [isBare]

/-- A bare name stands where a namespace would. -/
theorem nsPart_of_isBare {ref : ResourceRef} (h : ref.isBare) : ref.nsPart = ref.object := by
  rw [nsPart, Text.cut_eq_self (isBare_iff.1 h), String.ofList_toList]

theorem slash_notMem_nsPart (ref : ResourceRef) : '/' ∉ ref.nsPart.toList := by
  rw [nsPart, String.toList_ofList]
  exact Text.sep_notMem_cut '/' _

/-- An object part that is no bare name is a namespace part and a name part. -/
theorem object_eq_of_not_isBare {ref : ResourceRef} (h : ref.isBare = false) :
    ref.object = ref.nsPart ++ "/" ++ ref.namePart := by
  have hjoin := Text.cut_join '/' ref.object.toList
  rw [← String.toList_inj, toList_namespaced, nsPart, namePart, String.toList_ofList,
    String.toList_ofList]
  cases hback : (Text.cut '/' ref.object.toList).2 with
  | none =>
    -- Then all of it stands before the cut, where no slash is.
    rw [hback] at hjoin
    have hbare : '/' ∉ ref.object.toList := by
      rw [← hjoin]
      simpa using Text.sep_notMem_cut '/' ref.object.toList
    exact absurd (isBare_iff.2 hbare) (by simp [h])
  | some back =>
    rw [hback] at hjoin
    exact hjoin.symm

/-- What stands before the first slash is `ns` exactly if the object part is `ns` itself or
    continues it behind a slash. -/
theorem nsPart_eq_iff {ref : ResourceRef} :
    ref.nsPart = ns ↔
      '/' ∉ ns.toList ∧ (ref.object = ns ∨ ∃ name, ref.object = ns ++ "/" ++ name) := by
  constructor
  · rintro rfl
    refine ⟨slash_notMem_nsPart ref, ?_⟩
    -- A bare text is its own namespace part; any other text goes on behind a slash.
    cases hbare : ref.isBare with
    | true => exact .inl (nsPart_of_isBare hbare).symm
    | false => exact .inr ⟨ref.namePart, object_eq_of_not_isBare hbare⟩
  · obtain ⟨refKind, object⟩ := ref
    rintro ⟨hns, rfl | ⟨name, rfl⟩⟩
    · exact nsPart_of_isBare (isBare_iff.2 hns)
    · exact nsPart_namespaced hns

/-! ## Kind and object -/

/-- A reference with its kind in front is cut into the two: no kind has a colon in its name. -/
theorem cut_text (ref : ResourceRef) :
    Text.cut ':' ref.text.toList = (ref.kind.id.toList, some ref.object.toList) := by
  have hjoin : ref.text.toList = ref.kind.id.toList ++ ':' :: ref.object.toList := by
    simp [text]
  rw [hjoin, Text.cut_append_cons _ (ResourceKind.colon_notMem_id ref.kind)]

/-- References that read the same are the same. -/
theorem text_injective {r₁ r₂ : ResourceRef} (h : r₁.text = r₂.text) : r₁ = r₂ := by
  have hcut := cut_text r₁
  rw [h, cut_text r₂, Prod.mk.injEq, Option.some.injEq, String.toList_inj,
    String.toList_inj] at hcut
  obtain ⟨kind₁, object₁⟩ := r₁
  obtain ⟨kind₂, object₂⟩ := r₂
  obtain rfl : kind₂ = kind₁ := ResourceKind.id_injective hcut.1
  obtain rfl : object₂ = object₁ := hcut.2
  rfl

end ResourceRef
end ClusterAccess
