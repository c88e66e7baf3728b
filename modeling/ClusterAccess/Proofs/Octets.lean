/-
  ClusterAccess.Proofs.Octets

  Octets and texts, there and back: base64 gives back the octets that it was made
  of, and a text that begins with two ASCII characters is read back from its UTF-8.
-/
import ClusterAccess.Text.Base64
import ClusterAccess.Text.Utf

namespace ClusterAccess.Text

/-! ## Base64 -/

namespace Base64

theorem value?_digit {n : Nat} (h : n < 64) : value? .urlSafe (digit .urlSafe n) = some n := by
  revert n
  decide

theorem digit_ne_mark {n : Nat} (h : n < 64) : digit .urlSafe n ≠ '=' := by
  revert n
  decide

/-- A digit is pushed into the group that it stands in. -/
theorem read_digit {n : Nat} (h : n < 64) (group : Group) (marks : Nat) (rest : List Char) :
    read .urlSafe group marks (digit .urlSafe n :: rest) =
      (((group.push n).1.toList ++ (read .urlSafe (group.push n).2 0 rest).1),
        (read .urlSafe (group.push n).2 0 rest).2) := by
  rw [read, if_neg (digit_ne_mark h), value?_digit h]
  cases group <;> rfl

/-- Octets are read back from the text that stands for them. -/
theorem read_encode {octets : List Nat} (h : ∀ a ∈ octets, a < 256) (marks : Nat) :
    read .urlSafe .empty marks (encode .urlSafe octets) = (octets, none) := by
  -- Three octets make four digits, and the group is empty again behind them.
  induction octets using encode.induct generalizing marks with
  | case1 => rfl
  | case2 a =>
    have ha : a < 256 := h a (by simp)
    rw [encode, read_digit (by omega), read_digit (by omega)]
    simp only [Group.push, read, Group.marksOwed]
    simp
    omega
  | case3 a b =>
    have ha : a < 256 := h a (by simp)
    have hb : b < 256 := h b (by simp)
    rw [encode, read_digit (by omega), read_digit (by omega), read_digit (by omega)]
    simp only [Group.push, read, Group.marksOwed]
    simp
    omega
  | case4 a b c rest ih =>
    have ha : a < 256 := h a (by simp)
    have hb : b < 256 := h b (by simp)
    have hc : c < 256 := h c (by simp)
    have hrest : ∀ x ∈ rest, x < 256 := fun x hx => h x (by simp [hx])
    rw [encode, read_digit (by omega), read_digit (by omega), read_digit (by omega),
      read_digit (by omega)]
    simp only [Group.push]
    rw [ih hrest]
    simp
    omega

theorem decode?_encode {octets : List Nat} (h : ∀ a ∈ octets, a < 256) :
    decode? (encode .urlSafe octets) = some octets := by
  rw [decode?, decode, read_encode h]
  rfl

/-- The text that stands for octets is made of digits and of the mark. -/
theorem eq_mark_or_digit {octets : List Nat} (h : ∀ a ∈ octets, a < 256) {c : Char}
    (hc : c ∈ encode .urlSafe octets) : c = '=' ∨ ∃ n < 64, c = digit .urlSafe n := by
  induction octets using encode.induct with
  | case1 => cases hc
  | case2 a =>
    have ha : a < 256 := h a (by simp)
    simp only [encode, List.mem_cons, List.not_mem_nil, or_false] at hc
    rcases hc with rfl | rfl | rfl | rfl
    · exact .inr ⟨_, by omega, rfl⟩
    · exact .inr ⟨_, by omega, rfl⟩
    · exact .inl rfl
    · exact .inl rfl
  | case3 a b =>
    have ha : a < 256 := h a (by simp)
    have hb : b < 256 := h b (by simp)
    simp only [encode, List.mem_cons, List.not_mem_nil, or_false] at hc
    rcases hc with rfl | rfl | rfl | rfl
    · exact .inr ⟨_, by omega, rfl⟩
    · exact .inr ⟨_, by omega, rfl⟩
    · exact .inr ⟨_, by omega, rfl⟩
    · exact .inl rfl
  | case4 a b c' rest ih =>
    have ha : a < 256 := h a (by simp)
    have hb : b < 256 := h b (by simp)
    have hc' : c' < 256 := h c' (by simp)
    simp only [encode, List.mem_cons] at hc
    rcases hc with rfl | rfl | rfl | rfl | hc
    · exact .inr ⟨_, by omega, rfl⟩
    · exact .inr ⟨_, by omega, rfl⟩
    · exact .inr ⟨_, by omega, rfl⟩
    · exact .inr ⟨_, by omega, rfl⟩
    · exact ih (fun x hx => h x (by simp [hx])) hc

theorem digit_lt {n : Nat} (h : n < 64) : (digit .urlSafe n).toNat < 128 := by
  revert n
  decide

/-- The text that stands for octets is made of ASCII characters. -/
theorem lt_of_mem_encode {octets : List Nat} (h : ∀ a ∈ octets, a < 256) {c : Char}
    (hc : c ∈ encode .urlSafe octets) : c.toNat < 128 := by
  rcases eq_mark_or_digit h hc with rfl | ⟨n, hn, rfl⟩
  · decide
  · exact digit_lt hn

theorem urlSafe_digit {n : Nat} (h : n < 64) :
    (digit .urlSafe n).isAlphanum ∨ digit .urlSafe n = '-' ∨ digit .urlSafe n = '_' := by
  revert n
  decide

/-- The text that stands for octets can stand in an address as it is. -/
theorem urlSafe_of_mem_encode {octets : List Nat} (h : ∀ a ∈ octets, a < 256) {c : Char}
    (hc : c ∈ encode .urlSafe octets) : c.isAlphanum ∨ c = '-' ∨ c = '_' ∨ c = '=' := by
  rcases eq_mark_or_digit h hc with rfl | ⟨n, hn, rfl⟩
  · exact .inr (.inr (.inr rfl))
  · rcases urlSafe_digit hn with halnum | hdash | hunder
    · exact .inl halnum
    · exact .inr (.inl hdash)
    · exact .inr (.inr (.inl hunder))

end Base64

/-! ## UTF-8 -/

theorem toNat_lt (c : Char) : c.toNat < 0x110000 := by
  have hvalid : c.toNat.isValidChar := c.valid
  unfold Nat.isValidChar at hvalid
  omega

theorem Symbol.ofNat_toNat (c : Char) : Symbol.ofNat c.toNat = .char c := by
  have hvalid : c.toNat.isValidChar := c.valid
  rw [Symbol.ofNat, if_pos hvalid, Char.ofNat_toNat]

variable {p : Utf8Pending} {b : Nat} {rest : List Nat}

/-- The last octet of a character completes it. -/
theorem readUtf8_last (hb : p.low ≤ b ∧ b ≤ p.high) (howed : p.owed = 1) :
    readUtf8 (some p) (b :: rest) =
      (Symbol.ofNat (p.value * 64 + (b - 0x80)) :: ·) <$> readUtf8 none rest := by
  rw [readUtf8, if_pos hb, if_pos (by omega)]

/-- Any other octet of a character brings six more bits. -/
theorem readUtf8_more (hb : p.low ≤ b ∧ b ≤ p.high) (howed : 1 < p.owed) :
    readUtf8 (some p) (b :: rest) =
      readUtf8 (some ⟨p.owed - 1, p.value * 64 + (b - 0x80), 0x80, 0xBF⟩) rest := by
  rw [readUtf8, if_pos hb, if_neg (by omega)]

theorem readUtf8_lead (hb : 0x80 ≤ b) (hp : utf8Lead? b = some p) :
    readUtf8 none (b :: rest) = readUtf8 (some p) rest := by
  rw [readUtf8, if_neg (by omega), hp]

/-- The first octet of a character tells how many follow, and brings the upper bits. -/
theorem utf8Lead?_two {n : Nat} (hl : 0x80 ≤ n) (hu : n < 0x800) :
    utf8Lead? (0xC0 + n / 64) = some ⟨1, n / 64, 0x80, 0xBF⟩ := by
  rw [utf8Lead?, if_pos (by omega), Nat.add_sub_cancel_left]

theorem utf8Lead?_three {n : Nat} (hl : 0x800 ≤ n) (hu : n < 0x10000) :
    ∃ low, utf8Lead? (0xE0 + n / 4096) = some ⟨2, n / 4096, low, 0xBF⟩ ∧
      low ≤ 0x80 + n / 64 % 64 := by
  unfold utf8Lead?
  rw [if_neg (by omega)]
  -- Behind the least lead a second octet must not be low, or two octets would have done.
  by_cases hzero : n / 4096 = 0
  · rw [if_pos (by omega), hzero]
    exact ⟨_, rfl, by omega⟩
  · rw [if_neg (by omega), if_pos (by omega), Nat.add_sub_cancel_left]
    exact ⟨_, rfl, by omega⟩

theorem utf8Lead?_four {n : Nat} (hl : 0x10000 ≤ n) (hu : n < 0x110000) :
    ∃ low high, utf8Lead? (0xF0 + n / 262144) = some ⟨3, n / 262144, low, high⟩ ∧
      low ≤ 0x80 + n / 4096 % 64 ∧ 0x80 + n / 4096 % 64 ≤ high := by
  unfold utf8Lead?
  rw [if_neg (by omega), if_neg (by omega), if_neg (by omega)]
  -- The least lead and the greatest one bound the second octet.
  by_cases hzero : n / 262144 = 0
  · rw [if_pos (by omega), hzero]
    exact ⟨_, _, rfl, by omega, by omega⟩
  · by_cases hfour : n / 262144 = 4
    · rw [if_neg (by omega), if_neg (by omega), if_pos (by omega), hfour]
      exact ⟨_, _, rfl, by omega, by omega⟩
    · rw [if_neg (by omega), if_pos (by omega), Nat.add_sub_cancel_left]
      exact ⟨_, _, rfl, by omega, by omega⟩

/-- The octets of a character are read as that character. -/
theorem readUtf8_utf8Char (c : Char) (rest : List Nat) :
    readUtf8 none (utf8Char c ++ rest) = (.char c :: ·) <$> readUtf8 none rest := by
  have hlt := toNat_lt c
  have hsym := Symbol.ofNat_toNat c
  unfold utf8Char
  generalize c.toNat = n at hlt hsym
  -- A character takes one octet more as its number passes each of the three bounds.
  by_cases h1 : n < 0x80
  · rw [if_pos h1, List.singleton_append, readUtf8, if_pos h1, hsym]
  rw [if_neg h1]
  by_cases h2 : n < 0x800
  · rw [if_pos h2, List.cons_append, List.singleton_append,
      readUtf8_lead (by omega) (utf8Lead?_two (by omega) h2),
      readUtf8_last ⟨by simp, by simp; omega⟩ rfl]
    have hjoin : n / 64 * 64 + (0x80 + n % 64 - 0x80) = n := by omega
    simp only [hjoin, hsym]
  rw [if_neg h2]
  by_cases h3 : n < 0x10000
  · obtain ⟨low, hlead, hlow⟩ := utf8Lead?_three (by omega) h3
    rw [if_pos h3, List.cons_append, List.cons_append, List.singleton_append,
      readUtf8_lead (by omega) hlead, readUtf8_more ⟨hlow, by simp; omega⟩ (by simp),
      readUtf8_last ⟨by simp, by simp; omega⟩ rfl]
    have hjoin : (n / 4096 * 64 + (0x80 + n / 64 % 64 - 0x80)) * 64 +
        (0x80 + n % 64 - 0x80) = n := by omega
    simp only [hjoin, hsym]
  · obtain ⟨low, high, hlead, hlow, hhigh⟩ := utf8Lead?_four (by omega) hlt
    rw [if_neg h3, List.cons_append, List.cons_append, List.cons_append, List.singleton_append,
      readUtf8_lead (by omega) hlead, readUtf8_more ⟨hlow, hhigh⟩ (by simp),
      readUtf8_more ⟨by simp, by simp; omega⟩ (by simp),
      readUtf8_last ⟨by simp, by simp; omega⟩ rfl]
    have hjoin : ((n / 262144 * 64 + (0x80 + n / 4096 % 64 - 0x80)) * 64 +
        (0x80 + n / 64 % 64 - 0x80)) * 64 + (0x80 + n % 64 - 0x80) = n := by omega
    simp only [hjoin, hsym]

/-- A text is read back from its octets. -/
theorem readUtf8_utf8 (cs : List Char) : readUtf8 none (utf8 cs) = some (cs.map .char) := by
  induction cs with
  | nil => rfl
  | cons c cs ih =>
    rw [show utf8 (c :: cs) = utf8Char c ++ utf8 cs from rfl, readUtf8_utf8Char, ih]
    rfl

theorem lt_of_mem_utf8Char {c : Char} {a : Nat} (h : a ∈ utf8Char c) : a < 256 := by
  have hlt := toNat_lt c
  unfold utf8Char at h
  generalize c.toNat = n at hlt h
  simp only at h
  split at h
  · simp at h; omega
  · split at h
    · simp at h; omega
    · split at h
      · simp at h; omega
      · simp at h; omega

theorem lt_of_mem_utf8 {cs : List Char} {a : Nat} (h : a ∈ utf8 cs) : a < 256 := by
  obtain ⟨c, -, hc⟩ := List.mem_flatMap.1 h
  exact lt_of_mem_utf8Char hc

/-- A text that begins with two ASCII characters is taken for UTF-8. -/
theorem decode?_utf8 {a b : Char} (cs : List Char) (ha : a.toNat < 0x80) (hb : b.toNat < 0x80)
    (ha0 : a.toNat ≠ 0) (hb0 : b.toNat ≠ 0) :
    decode? (utf8 (a :: b :: cs)) = some ((a :: b :: cs).map .char) := by
  have hrec : recognize (utf8 (a :: b :: cs)) = .utf8 (utf8 (a :: b :: cs)) := by
    have hoct : utf8 (a :: b :: cs) = a.toNat :: b.toNat :: utf8 cs := by
      simp [utf8, utf8Char, ha, hb]
    rw [hoct]
    generalize a.toNat = x at *
    generalize b.toNat = y at *
    -- Every other encoding shows by an octet among the first two that is zero or not ASCII.
    unfold recognize
    split
    · simp_all
    · simp_all
    · simp_all
    · simp_all
    · simp_all
    · unfold recognizeUnmarked
      split <;> simp_all
  rw [decode?, hrec]
  exact readUtf8_utf8 _

end ClusterAccess.Text
