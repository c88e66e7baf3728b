/-
  ClusterAccess.Proofs.VerbSets

  The set of verbs that a list denotes. The effective list is its canonical form:
  lists have the same effective list exactly if they denote the same verbs, whatever
  their order and their repetitions, and whether they spell the standard verbs out
  or let `*` stand for them.
-/
import Mathlib.Data.List.Sort
import Mathlib.Data.Set.Insert
import ClusterAccess.Manifest.Verbs
import ClusterAccess.Proofs.SortedTexts

namespace ClusterAccess.Verb

variable {listed listed' : List String} {verb : String}

/-! ## Denoted verbs -/

/-- A list holds `*` or the empty verb somewhere. -/
def Expands (listed : List String) : Prop :=
  "*" ∈ listed ∨ "" ∈ listed

instance (listed : List String) : Decidable (Expands listed) :=
  inferInstanceAs (Decidable (_ ∨ _))

/-- The verbs that a list denotes: exactly the eight standard ones if it expands, whatever else it
holds, and otherwise its elements. -/
def denoted (listed : List String) : Set String :=
  if Expands listed then
    {"get", "list", "watch", "create", "update", "patch", "delete", "deletecollection"}
  else {verb | verb ∈ listed}

theorem any_isExpanding_iff : listed.any isExpanding = true ↔ Expands listed := by
  have hverb : ∀ verb, isExpanding verb = true ↔ verb = "*" ∨ verb = "" := by
    intro verb
    rw [isExpanding, Bool.or_eq_true, beq_iff_eq, beq_iff_eq]
  rw [List.any_eq_true, Expands]
  constructor
  · rintro ⟨verb, hmem, hexpanding⟩
    rcases (hverb verb).1 hexpanding with rfl | rfl
    · exact .inl hmem
    · exact .inr hmem
  · rintro (hstar | hempty)
    · exact ⟨"*", hstar, rfl⟩
    · exact ⟨"", hempty, rfl⟩

theorem denoted_of_expands (h : Expands listed) : denoted listed = {verb | verb ∈ standard} := by
  rw [denoted, if_pos h]
  ext verb
  simp [standard]

theorem denoted_of_not_expands (h : ¬ Expands listed) : denoted listed = {verb | verb ∈ listed} :=
  if_neg h

/-- No standard verb stands for others. -/
theorem not_expands_standard : ¬ Expands standard := by
  decide

/-! ## The effective list -/

theorem effective_of_expands (h : Expands listed) :
    effective listed = Text.sortDistinct standard := by
  rw [effective, if_pos (any_isExpanding_iff.2 h)]

theorem effective_of_not_expands (h : ¬ Expands listed) :
    effective listed = Text.sortDistinct listed := by
  rw [effective, if_neg (mt any_isExpanding_iff.1 h)]

/-- The effective list holds the verbs that are denoted. -/
theorem mem_effective_iff : verb ∈ effective listed ↔ verb ∈ denoted listed := by
  by_cases h : Expands listed
  case pos =>
    rw [effective_of_expands h, denoted_of_expands h, Text.mem_sortDistinct, Set.mem_ofPred_eq]
  case neg =>
    rw [effective_of_not_expands h, denoted_of_not_expands h, Text.mem_sortDistinct,
      Set.mem_ofPred_eq]

theorem pairwise_effective (listed : List String) : (effective listed).Pairwise (· < ·) :=
  Text.pairwise_sortDistinctBy id _

/-- In an effective list every verb stands for itself. -/
theorem not_expands_effective (listed : List String) : ¬ Expands (effective listed) := by
  by_cases h : Expands listed
  case pos =>
    simp only [effective_of_expands h, Expands, Text.mem_sortDistinct]
    exact not_expands_standard
  case neg =>
    simp only [effective_of_not_expands h, Expands, Text.mem_sortDistinct]
    exact h

/-- The effective list denotes what it is made from. -/
theorem denoted_effective (listed : List String) : denoted (effective listed) = denoted listed := by
  rw [denoted_of_not_expands (not_expands_effective listed)]
  ext verb
  rw [Set.mem_ofPred_eq, mem_effective_iff]

/-- The denoted verbs determine the effective list, and are determined by it. -/
theorem effective_eq_iff :
    effective listed = effective listed' ↔ denoted listed = denoted listed' := by
  constructor
  · intro h
    rw [← denoted_effective listed, h, denoted_effective]
  · intro h
    -- Both lists increase strictly, so it is enough that they hold the same verbs.
    apply List.Pairwise.eq_of_mem_iff (pairwise_effective listed) (pairwise_effective listed')
    intro verb
    rw [mem_effective_iff, mem_effective_iff, h]

theorem effective_effective (listed : List String) :
    effective (effective listed) = effective listed :=
  effective_eq_iff.2 (denoted_effective listed)

theorem effective_eq_nil_iff : effective listed = [] ↔ listed = [] := by
  rw [effective, Text.sortDistinct, Text.sortDistinctBy_eq_nil_iff]
  split
  next h =>
    -- A list that expands is not empty, and neither is what it expands to.
    refine iff_of_false (by decide) ?_
    rintro rfl
    cases h
  next => rfl

/-! ## Raw lists -/

theorem rawExpands_texts (listed : List String) :
    rawExpands (listed.map .text) = .ok (listed.any isExpanding) := by
  induction listed with
  | nil => rfl
  | cons verb rest ih =>
    rw [List.map_cons, rawExpands, List.any_cons]
    by_cases h : isExpanding verb = true
    case pos => rw [if_pos h, h, Bool.true_or]
    case neg => rw [if_neg h, ih, Bool.eq_false_iff.2 h, Bool.false_or]

theorem sortRaw_texts (listed : List String) :
    sortRaw (listed.map .text) = .ok ((Text.sortDistinct listed).map .text) := by
  have htexts : (listed.map Json.text).mapM Json.looseText? = some listed := by
    induction listed with
    | nil => rfl
    | cons verb rest ih => simp [ih, Json.looseText?]
  rw [sortRaw, htexts]

/-- A raw list of texts is read as the effective list of the texts. -/
theorem ofRaw_ofTexts (listed : List String) :
    ofRaw (.ofTexts listed) = .ok ((effective listed).map .text) := by
  have hread : ofRaw (.ofTexts listed) = (do
      if ← rawExpands (listed.map .text) then return (effective standard).map .text
      else sortRaw (listed.map .text)) := rfl
  rw [hread, rawExpands_texts, sortRaw_texts]
  by_cases h : Expands listed
  case pos =>
    rw [any_isExpanding_iff.2 h, effective_of_expands h,
      effective_of_not_expands not_expands_standard]
    rfl
  case neg =>
    rw [Bool.eq_false_iff.2 (mt any_isExpanding_iff.1 h), effective_of_not_expands h]
    rfl

/-- The effective list is the canonical form of the set of verbs that a list denotes: lists have the
same one exactly if they denote the same verbs. It increases strictly, holds and denotes exactly
these verbs, is its own effective list, and is empty for the empty list only; and a raw list of
texts is read as it. -/
theorem effective_canonical (listed listed' : List String) :
    (effective listed = effective listed' ↔ denoted listed = denoted listed') ∧
    (effective listed).Pairwise (· < ·) ∧
    (∀ verb, verb ∈ effective listed ↔ verb ∈ denoted listed) ∧
    denoted (effective listed) = denoted listed ∧
    effective (effective listed) = effective listed ∧
    (effective listed = [] ↔ listed = []) ∧
    ofRaw (.ofTexts listed) = .ok ((effective listed).map .text) := by
  refine ⟨effective_eq_iff, pairwise_effective listed, ?_, denoted_effective listed,
    effective_effective listed, effective_eq_nil_iff, ofRaw_ofTexts listed⟩
  intro verb
  exact mem_effective_iff

/-- Spelled out in any order, the standard verbs are what `*` stands for beside another verb. -/
example : effective ["*", "escalate"] = effective standard.reverse := by
  decide

end ClusterAccess.Verb
